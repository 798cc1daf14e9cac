import Mathlib.Data.List.Induction
import Interop.Proofs.Gate
import Interop.Proofs.Numbering

namespace Interop.Gate

/-!
# Who opened a member

The flag of a member remembers the last touch that took effect and nothing else, so a flag that is up
on a member that is not public was raised under a policy that granted it at that moment.

* `Gate.Effect` — what a move can do to flags and handles; `Gate.effect_step` shows that there is
  nothing else.
* `Gate.Sound` — the invariant: a flag is what the last effective touch made it.
* `Gate.RaisedAt` — where a flag went up that has been up ever since.
* `Gate.AccessLaws`, `Gate.accessLaws_run` — what holds of every member at every moment of every run.

Permissions are not part of a flag: when a policy changes, flags that are up stay up. So what is true
of a flag at some moment cannot be read off the policy at that moment. The invariant is about touches
instead, of which the last effective one decides, and what the policy has to say is said about the one
move that raised the flag. `raisedAt_of_accessible` goes back over a run to find this move. It is the
last one before which the flag was down, so the flag has been up since.
-/

variable {g g' : Gate} {m : Member}

/-- The member's policy grants its kind now. -/
def Grants (g : Gate) (m : Member) : Prop :=
  ((g.access.policy m.policy).resolve m.declaring).grants m.kind = true

/-- A flag may be raised iff the member is public or its policy grants its kind now. -/
theorem allows_eq_true_iff : g.access.allows m = true ↔ m.visibility = .pub ∨ g.Grants m :=
  Permission.allows_eq_true_iff ..

/-! ### A single touch

A touch is a call that was to set a flag. It is refused or takes effect, and is written down in either
case.
-/

/-- To raise a flag without permission is refused and leaves everything but the record as it was. -/
theorem setAccessible_of_not_allows (h : g.access.allows m = false) :
    g.setAccessible m true = (.error ⟨m.declaring ++ "." ++ m.name⟩,
      { g with touches := ⟨m.serial, true, .error ⟨m.declaring ++ "." ++ m.name⟩⟩ :: g.touches }) := by
  simp [setAccessible, AccessState.setAccessible, h]

/-- To lower a flag needs no permission, and to raise it needs no more than that. -/
theorem setAccessible_of_allows {flag : Bool} (h : flag = true → g.access.allows m = true) :
    g.setAccessible m flag = (.ok (),
      { g with
        access := g.access.setFlag m.serial flag
        touches := ⟨m.serial, flag, .ok ()⟩ :: g.touches }) := by
  have hgate : (flag && !g.access.allows m) = false := by
    cases flag with
    | false => rfl
    | true => simp [h rfl]
  simp [setAccessible, AccessState.setAccessible, hgate]

/-- The last effective touch after one more touch. -/
theorem lastSet_cons {t : Touch} (ht : g'.touches = t :: g.touches) (n : Nat) :
    g'.lastSet n = if t.settles n then some t.flag else g.lastSet n := by
  rw [lastSet, ht, List.find?_cons]
  cases t.settles n with
  | true => rfl
  | false => rfl

/-- A refused touch is not an effective one. -/
theorem settles_error (n : Nat) (flag : Bool) (e : AccessDenied) (k : Nat) :
    (Touch.mk n flag (.error e)).settles k = false :=
  Bool.and_false _

/-- A touch that was not refused is effective on its own number. -/
theorem settles_ok (n : Nat) (flag : Bool) (k : Nat) :
    (Touch.mk n flag (.ok ())).settles k = (n == k) :=
  Bool.and_true _

/-! ### What a move does

A move touches one flag at most, or makes one. What else a move may do, to policies, the log or the
handles of other members, leaves all flags as they are.
-/

/-- What a move makes of a gate, as far as flags and handles go. -/
inductive Effect (g : Gate) : Gate → Prop
  /-- No flag is touched to any effect, and no handle is new but for clones. -/
  | frame {g' : Gate} (flags : g'.access.flags = g.access.flags)
      (handles : ∀ m ∈ g'.handles, m ∈ g.handles) (last : ∀ n, g'.lastSet n = g.lastSet n) :
      Effect g g'
  /-- A member is reflected. Its flag takes the next number, and is up iff the member is public. -/
  | reflected {g' : Gate} {m : Member} (serial : m.serial = g.access.flags.length)
      (supported : m.supported = true)
      (flags : g'.access.flags = g.access.flags ++ [m.visibility == .pub])
      (handles : g'.handles = m :: g.handles) (last : ∀ n, g'.lastSet n = g.lastSet n) : Effect g g'
  /-- The flag of a member in circulation is set. It is raised only if the member's policy allows
      that now. -/
  | settled {g' : Gate} {m : Member} {flag : Bool} (held : m ∈ g.handles)
      (permitted : flag = true → g.access.allows m = true)
      (flags : g'.access.flags = g.access.flags.set m.serial flag)
      (handles : g'.handles = g.handles)
      (last : ∀ n, g'.lastSet n = if m.serial = n then some flag else g.lastSet n) : Effect g g'

/-- To change nothing is a frame. -/
theorem Effect.same : g.Effect g :=
  .frame rfl (fun _ h => h) (fun _ => rfl)

/-- To write to the log is no effect of its own. -/
theorem Effect.write (h : g.Effect g') (note : ElevationNote) : g.Effect (g'.write note) := by
  cases h with
  | frame flags handles last => exact .frame flags handles last
  | reflected serial supported flags handles last =>
    exact .reflected serial supported flags handles last
  | settled held permitted flags handles last => exact .settled held permitted flags handles last

/-- To touch a flag through a handle sets it, or is refused. -/
theorem effect_setAccessible (hm : m ∈ g.handles) (flag : Bool) :
    g.Effect (g.setAccessible m flag).2 := by
  by_cases h : flag = true → g.access.allows m = true
  · rw [setAccessible_of_allows h]
    refine .settled hm h rfl rfl fun n => ?_
    rw [lastSet_cons rfl, settles_ok]
    simp only [beq_iff_eq]
  · obtain ⟨rfl, hdenied⟩ : flag = true ∧ g.access.allows m = false := by simpa using h
    rw [setAccessible_of_not_allows hdenied]
    refine .frame rfl (fun _ h => h) fun n => ?_
    rw [lastSet_cons rfl, settles_error]
    rfl

/-- So does an attempt to raise a flag. -/
theorem effect_raise (hm : m ∈ g.handles) (logging : Bool) : g.Effect (g.raise m logging) := by
  have h := effect_setAccessible hm true
  unfold raise
  revert h
  -- A refused attempt may be noted; a note is no effect.
  rcases g.setAccessible m true with ⟨e | u, g'⟩ <;> intro h
  · cases logging with
    | false => exact h
    | true => exact h.write _
  · exact h

/-- And so does an elevation, unless the flag is up already. -/
theorem effect_elevate (hm : m ∈ g.handles) (hs : m.supported = true) (logging : Bool) :
    g.Effect (g.elevate m logging).2 := by
  rw [elevate_eq g logging hs]
  by_cases hflag : g.accessible m = true
  · rw [if_pos hflag]
    exact .same
  · rw [if_neg hflag]
    exact effect_raise hm logging

/-- To reflect a member makes a new flag. -/
theorem effect_reflect (o : MemberOrigin) (visibility : Visibility) (policy : Nat) :
    g.Effect (g.reflect o visibility policy) := by
  unfold reflect
  by_cases hp : policy < g.access.policies.length
  · rw [if_pos hp]
    cases o with
    | field declaring name => exact .reflected rfl rfl rfl rfl fun _ => rfl
    | method m => exact .reflected rfl rfl rfl rfl fun _ => rfl
    | constructor declaring params variadic => exact .reflected rfl rfl rfl rfl fun _ => rfl
  · rw [if_neg hp]
    exact .same

/-- What is done with a handle in circulation. -/
theorem effect_withHandle {f : Member → Gate} (hf : ∀ m ∈ g.handles, g.Effect (f m)) (place : Nat) :
    g.Effect (g.withHandle place f) := by
  unfold withHandle
  split
  next => exact .same
  next m hm => exact hf m (List.mem_of_getElem? hm)

/-- What any move makes of a gate whose handles are all of members with an access mode. -/
theorem effect_step (hs : ∀ m ∈ g.handles, m.supported = true) (move : Move) :
    g.Effect (g.step move) := by
  cases move with
  | policy p => exact .frame rfl (fun _ h => h) fun _ => rfl
  | reflect o visibility policy => exact effect_reflect o visibility policy
  | clone place =>
    refine effect_withHandle (fun m hm => ?_) place
    refine .frame rfl (fun m' hm' => ?_) fun _ => rfl
    rcases List.mem_cons.mp hm' with rfl | hm'
    · exact hm
    · exact hm'
  | drop place => exact .frame rfl (fun _ h => List.mem_of_mem_eraseIdx h) fun _ => rfl
  | elevate place logging =>
    exact effect_withHandle (fun m hm => effect_elevate hm (hs m hm) logging) place
  | setAccessible place flag =>
    exact effect_withHandle (fun m hm => effect_setAccessible hm flag) place
  | setType policy typeName permission => exact .frame rfl (fun _ h => h) fun _ => rfl
  | addRule policy rule => exact .frame rfl (fun _ h => h) fun _ => rfl

/-! ### The invariant -/

/-- The invariant of a gate. -/
structure Sound (g : Gate) : Prop where
  /-- Handles of one number are handles of one member. -/
  numbered : Numbered Member.serial g.access.flags.length g.handles
  /-- Every member in circulation has an access mode. -/
  supported : ∀ m ∈ g.handles, m.supported = true
  /-- A number that was not given out yet was not touched yet. -/
  untouched : ∀ n, g.access.flags.length ≤ n → g.lastSet n = none
  /-- A flag is what the last effective touch made it, and up on a public member before that. -/
  flag : ∀ m ∈ g.handles, g.accessible m = (g.lastSet m.serial).getD (m.visibility == .pub)

/-- At the start there are neither members nor touches. -/
theorem Sound.start : ({} : Gate).Sound :=
  ⟨.nil, by simp, fun _ _ => rfl, by simp⟩

/-- The flags tell what the handles say. -/
theorem accessible_of_flags (h : g'.access.flags = g.access.flags) (m : Member) :
    g'.accessible m = g.accessible m := by
  rw [accessible, accessible, AccessState.flag, AccessState.flag, h]

/-- A member that had a flag before has it when another one is reflected. -/
theorem accessible_of_append {b : Bool} (h : g'.access.flags = g.access.flags ++ [b])
    (hm : m.serial < g.access.flags.length) : g'.accessible m = g.accessible m := by
  simp only [accessible, AccessState.flag, h, List.getD_eq_getElem?_getD]
  rw [List.getElem?_append_left hm]

/-- A member shows the flag that was set. -/
theorem accessible_of_set {n : Nat} {b : Bool} (h : g'.access.flags = g.access.flags.set n b)
    (hm : m.serial < g.access.flags.length) :
    g'.accessible m = if n = m.serial then b else g.accessible m := by
  simp only [accessible, AccessState.flag, h, List.getD_eq_getElem?_getD]
  rw [List.getElem?_set]
  by_cases hn : n = m.serial
  · rw [if_pos hn, if_pos hn, if_pos (hn ▸ hm)]
    rfl
  · rw [if_neg hn, if_neg hn]

/-- Every effect keeps the invariant. -/
theorem Sound.effect (hs : g.Sound) (h : g.Effect g') : g'.Sound := by
  cases h with
  | frame flags handles last =>
    refine ⟨?_, fun m hm => hs.supported m (handles m hm), ?_, ?_⟩
    · exact hs.numbered.of_subset handles (Nat.le_of_eq (by rw [flags]))
    · intro n hn
      rw [last]
      exact hs.untouched n (flags ▸ hn)
    · intro m hm
      rw [accessible_of_flags flags, last]
      exact hs.flag m (handles m hm)
  | @reflected new serial supported flags handles last =>
    have hlen : g'.access.flags.length = g.access.flags.length + 1 := by
      rw [flags, List.length_append, List.length_singleton]
    refine ⟨?_, ?_, ?_, ?_⟩
    · rw [hlen, handles]
      exact hs.numbered.cons serial
    · intro m hm
      rw [handles] at hm
      rcases List.mem_cons.mp hm with rfl | hm
      · exact supported
      · exact hs.supported m hm
    · intro n hn
      rw [last]
      exact hs.untouched n (by omega)
    · intro m hm
      rw [last]
      rw [handles] at hm
      rcases List.mem_cons.mp hm with rfl | hm
      · -- The new number was not touched yet, so the flag is as reflected.
        rw [hs.untouched m.serial (by omega)]
        simp [accessible, AccessState.flag, flags, serial]
      · rw [accessible_of_append flags (hs.numbered.below m hm)]
        exact hs.flag m hm
  | @settled touched flag held permitted flags handles last =>
    have hlen : g'.access.flags.length = g.access.flags.length := by rw [flags, List.length_set]
    refine ⟨?_, ?_, ?_, ?_⟩
    · rw [hlen, handles]
      exact hs.numbered
    · rw [handles]
      exact hs.supported
    · intro n hn
      have hlt := hs.numbered.below touched held
      rw [last, if_neg (by omega)]
      exact hs.untouched n (by omega)
    · intro m hm
      rw [handles] at hm
      rw [accessible_of_set flags (hs.numbered.below m hm), last]
      by_cases hn : touched.serial = m.serial
      · rw [if_pos hn, if_pos hn]
        rfl
      · rw [if_neg hn, if_neg hn]
        exact hs.flag m hm

/-- Every move keeps the invariant. -/
theorem Sound.step (hs : g.Sound) (move : Move) : (g.step move).Sound :=
  hs.effect (effect_step hs.supported move)

/-- The invariant holds after every run. -/
theorem Sound.run (ms : List Move) : (Gate.run ms).Sound :=
  List.foldlRecOn ms Gate.step Sound.start fun _ hs move _ => hs.step move

/-! ### Who raised a flag

The invariant does not tell when a flag was raised, so this is an induction over the run itself, from
its end.
-/

/-- If a member that is not public is accessible after a move, it was so before, or its policy granted
    its kind. -/
theorem Sound.accessible_before (hs : g.Sound) (h : g.Effect g') (hm : m ∈ g'.handles)
    (hv : m.visibility ≠ .pub) (hup : g'.accessible m = true) :
    m ∈ g.handles ∧ (g.accessible m = true ∨ g.Grants m) := by
  cases h with
  | frame flags handles last =>
    rw [accessible_of_flags flags] at hup
    exact ⟨handles m hm, .inl hup⟩
  | @reflected new serial supported flags handles last =>
    rw [handles] at hm
    rcases List.mem_cons.mp hm with rfl | hm
    · -- A member that is not public starts with its flag down.
      simp [accessible, AccessState.flag, flags, serial, hv] at hup
    · rw [accessible_of_append flags (hs.numbered.below m hm)] at hup
      exact ⟨hm, .inl hup⟩
  | @settled touched flag held permitted flags handles last =>
    rw [handles] at hm
    rw [accessible_of_set flags (hs.numbered.below m hm)] at hup
    by_cases hn : touched.serial = m.serial
    · rw [if_pos hn] at hup
      obtain rfl := hs.numbered.unique touched held m hm hn
      rcases allows_eq_true_iff.mp (permitted hup) with hpub | hgrants
      · exact absurd hpub hv
      · exact ⟨hm, .inr hgrants⟩
    · rw [if_neg hn] at hup
      exact ⟨hm, .inl hup⟩

/-- After the moves `before`, the move `move` raised the flag of `m`, with the grant of its policy, and
    the flag has been up since. -/
structure RaisedAt (m : Member) (before : List Move) (move : Move) (after : List Move) : Prop where
  held : m ∈ (run before).handles
  down : (run before).accessible m = false
  granted : (run before).Grants m
  up : ∀ later, later <+: after → (run (before ++ move :: later)).accessible m = true

/-- A flag that is up on a member that is not public was raised with the grant of its policy. -/
theorem raisedAt_of_accessible (ms : List Move) (hm : m ∈ (run ms).handles)
    (hv : m.visibility ≠ .pub) (hup : (run ms).accessible m = true) :
    ∃ before move after, ms = before ++ move :: after ∧ RaisedAt m before move after := by
  -- Induction from the end of the run: either the last move raised the flag, or an earlier one did.
  induction ms using List.reverseRecOn with
  | nil => cases hm
  | append_singleton ms last ih =>
    rw [run_concat] at hm hup
    have hs := Sound.run ms
    obtain ⟨hheld, hbefore⟩ := hs.accessible_before (effect_step hs.supported last) hm hv hup
    by_cases hflag : (run ms).accessible m = true
    · obtain ⟨before, move, after, rfl, h⟩ := ih hheld hflag
      refine ⟨before, move, after ++ [last], by simp, h.held, h.down, h.granted, ?_⟩
      intro later hlater
      rcases List.prefix_concat_iff.mp hlater with rfl | hlater
      · rw [← List.cons_append, ← List.append_assoc, run_concat]
        exact hup
      · exact h.up later hlater
    · have hgrants : (run ms).Grants m := hbefore.resolve_left hflag
      refine ⟨ms, last, [], rfl, hheld, eq_false_of_ne_true hflag, hgrants, ?_⟩
      intro later hlater
      rw [List.prefix_nil.mp hlater, run_concat]
      exact hup

/-! ### The laws of access -/

/-- An attempt to raise a flag that is down raises it iff the policy allows that now. -/
theorem Sound.accessible_raise (hs : g.Sound) (hm : m ∈ g.handles) (hdown : g.accessible m = false)
    (logging : Bool) : (g.raise m logging).accessible m = g.access.allows m := by
  unfold raise
  by_cases h : g.access.allows m = true
  · rw [setAccessible_of_allows fun _ => h, h]
    exact AccessState.flag_setFlag_self _ (hs.numbered.below m hm) true
  · have hdenied : g.access.allows m = false := eq_false_of_ne_true h
    rw [setAccessible_of_not_allows hdenied, hdenied]
    cases logging with
    | false => exact hdown
    | true => exact hdown

/-- An elevation answers whether the flag was up or may be raised now, and leaves it so. -/
theorem Sound.elevate_eq (hs : g.Sound) (hm : m ∈ g.handles) (logging : Bool) :
    (g.elevate m logging).1 = .ok (g.accessible m || g.access.allows m) ∧
      (g.elevate m logging).2.accessible m = (g.accessible m || g.access.allows m) := by
  rw [Gate.elevate_eq g logging (hs.supported m hm)]
  by_cases hflag : g.accessible m = true
  · rw [if_pos hflag, hflag, Bool.true_or]
    exact ⟨rfl, rfl⟩
  · have hdown : g.accessible m = false := eq_false_of_ne_true hflag
    rw [if_neg hflag, hdown, Bool.false_or, hs.accessible_raise hm hdown]
    exact ⟨rfl, rfl⟩

/-- What holds of every member in circulation after the moves `ms`. -/
structure AccessLaws (ms : List Move) : Prop where
  /-- Handles of one member agree in everything, the flag included. -/
  shared : ∀ m ∈ (run ms).handles, ∀ m' ∈ (run ms).handles, m.serial = m'.serial → m = m'
  /-- A flag is what the last effective touch made it; before that it is up iff the member is
      public. -/
  flag : ∀ m ∈ (run ms).handles,
    (run ms).accessible m = ((run ms).lastSet m.serial).getD (m.visibility == .pub)
  /-- To raise a flag is denied iff the member is not public and its policy does not grant its kind
      now. -/
  denied : ∀ m ∈ (run ms).handles, ∀ e, ((run ms).setAccessible m true).1 = .error e ↔
    m.visibility ≠ .pub ∧ ¬ (run ms).Grants m ∧ e = ⟨m.declaring ++ "." ++ m.name⟩
  /-- To lower a flag is never denied. -/
  lowered : ∀ m ∈ (run ms).handles, ((run ms).setAccessible m false).1 = .ok ()
  /-- What is denied changes no flag and no policy. -/
  unchanged : ∀ m ∈ (run ms).handles, ∀ flag e, ((run ms).setAccessible m flag).1 = .error e →
    ((run ms).setAccessible m flag).2.access = (run ms).access
  /-- An elevation says yes iff the flag was up or the policy allows to raise it now, and whatever it
      says is what the flag shows from then on. -/
  elevated : ∀ m ∈ (run ms).handles, ∀ logging, ∃ answer,
    ((run ms).elevate m logging).1 = .ok answer ∧
      ((run ms).elevate m logging).2.accessible m = answer ∧
      (answer = true ↔
        (run ms).accessible m = true ∨ m.visibility = .pub ∨ (run ms).Grants m)
  /-- A flag that is up on a member that is not public was raised with the grant of its policy. -/
  raised : ∀ m ∈ (run ms).handles, m.visibility ≠ .pub → (run ms).accessible m = true →
    ∃ before move after, ms = before ++ move :: after ∧ RaisedAt m before move after
  /-- No change of a policy changes a flag. -/
  steady : ∀ m policy typeName permission rule,
    ((run ms).step (.setType policy typeName permission)).accessible m = (run ms).accessible m ∧
      ((run ms).step (.addRule policy rule)).accessible m = (run ms).accessible m

/-- The laws of access hold after every run. -/
theorem accessLaws_run (ms : List Move) : AccessLaws ms := by
  have hs := Sound.run ms
  refine ⟨?_, hs.flag, ?_, ?_, ?_, ?_, ?_, fun _ _ _ _ _ => ⟨rfl, rfl⟩⟩
  · intro m hm m' hm' heq
    exact hs.numbered.unique m hm m' hm' heq
  · intro m _ e
    by_cases h : (run ms).access.allows m = true
    · rw [setAccessible_of_allows fun _ => h]
      have hnot := allows_eq_true_iff.mp h
      simp only [reduceCtorEq, false_iff]
      rintro ⟨hv, hgrants, -⟩
      exact hnot.elim hv hgrants
    · rw [setAccessible_of_not_allows (eq_false_of_ne_true h)]
      have hnot := mt allows_eq_true_iff.mpr h
      rw [not_or] at hnot
      simp only [Except.error.injEq, hnot, not_false_eq_true, true_and, ne_eq]
      exact eq_comm
  · intro m _
    have hlow : false = true → (run ms).access.allows m = true := fun h => absurd h Bool.false_ne_true
    rw [setAccessible_of_allows hlow]
  · intro m _ flag e h
    by_cases hallows : flag = true → (run ms).access.allows m = true
    · rw [setAccessible_of_allows hallows] at h
      cases h
    · obtain ⟨rfl, hdenied⟩ : flag = true ∧ (run ms).access.allows m = false := by simpa using hallows
      rw [setAccessible_of_not_allows hdenied]
  · intro m hm logging
    obtain ⟨hanswer, hafter⟩ := hs.elevate_eq hm logging
    refine ⟨_, hanswer, hafter, ?_⟩
    rw [Bool.or_eq_true, allows_eq_true_iff]
  · intro m hm hv hup
    exact raisedAt_of_accessible ms hm hv hup

/-- A denial is not for good: once the policy grants the kind, the next elevation raises the flag, and
    a restriction after that does not lower it. -/
example :
    let denied : List Move := [.policy ⟨.publicOnly, [], []⟩,
      .reflect (.field "app.Widget" "secret") .priv 0, .elevate 0 false]
    let granted := denied ++ [.setType 0 "app.Widget" .onlyFields, .elevate 0 false]
    let restricted := granted ++ [.setType 0 "app.Widget" .publicOnly, .elevate 0 false]
    (run denied).access.flags = [false] ∧ (run granted).access.flags = [true] ∧
      (run restricted).access.flags = [true] := by
  decide

end Interop.Gate
