import Mathlib.Data.List.Perm.Basic
import Interop.Proofs.Grants

namespace Interop

/-!
# Elevations in any order

An elevation raises the flag of one member, or leaves it as it is; it never lowers a flag and touches no
policy. So what one elevation does is not disturbed by another one, and any number of them may be made in any
order.

* `AccessState.raise`, `AccessState.openable` — what an elevation does to the flags, and what it answers.
* `Gate.elevateAll` — elevations in order, with their answers; `Gate.Sound.elevateAll_eq` says that each is
  answered as if it were the only one, and that the flags are raised one by one.
* `Gate.elevationLaws_run` — hence elevations are idempotent, commutative and local, and the order of any
  number of them does not matter.

On the state of a gate an elevation is one function of the member, `raise`, whatever is written to a
log meanwhile: where the flag is up already, to raise it again would change nothing. It commutes with
itself, since what a policy allows does not depend on flags, and two flags may be set in any order.
What an elevation answers, `openable`, is not changed by raising flags either: a flag that comes up
was one that could come up. From here on many elevations are a fold, and the library knows that a fold
of a commuting step does not depend on the order.
-/

namespace AccessState

variable (s : AccessState) (a b : Member)

/-- The state after the flag of a member was raised, if its policy allows that. -/
def raise : AccessState :=
  if s.allows a then s.setFlag a.serial true else s

/-- Whether the flag of a member is up or may be raised. -/
def openable : Bool :=
  s.flag a.serial || s.allows a

/-- Where the policy allows it, the flag is set. -/
theorem raise_of_allows {s : AccessState} {a : Member} (h : s.allows a = true) :
    s.raise a = s.setFlag a.serial true :=
  if_pos h

/-- Where it does not, nothing happens. -/
theorem raise_of_not_allows {s : AccessState} {a : Member} (h : ¬ s.allows a = true) : s.raise a = s :=
  if_neg h

/-- A flag that is up stays as it is when it is raised. -/
theorem setFlag_of_flag {n : Nat} (h : s.flag n = true) : s.setFlag n true = s := by
  rw [flag, List.getD_eq_getElem?_getD] at h
  have hsome : s.flags[n]? = some true := by
    cases hn : s.flags[n]? with
    | none => simp [hn] at h
    | some b => simpa [hn] using h
  obtain ⟨hlt, hup⟩ := List.getElem?_eq_some_iff.mp hsome
  rw [setFlag, ← hup, List.set_getElem_self]

/-- To set a flag twice to one value is to set it once. -/
theorem setFlag_setFlag_self (n : Nat) (value : Bool) :
    (s.setFlag n value).setFlag n value = s.setFlag n value := by
  simp only [setFlag, List.set_set]

/-- Two flags may be set to one value in any order. -/
theorem setFlag_comm (n n' : Nat) (value : Bool) :
    (s.setFlag n value).setFlag n' value = (s.setFlag n' value).setFlag n value := by
  by_cases h : n = n'
  · rw [h]
  · simp only [setFlag, List.set_comm _ _ h]

/-- To raise a flag changes no policy, and so not what a policy allows. -/
@[simp] theorem policies_raise : (s.raise a).policies = s.policies := by
  unfold raise
  split <;> rfl

/-- What a policy allows does not depend on the flags. -/
@[simp] theorem allows_raise : (s.raise a).allows b = s.allows b := by
  simp only [allows, policy, policies_raise]

/-- To raise a flag changes no other one. -/
theorem flag_raise_of_ne {n : Nat} (h : n ≠ a.serial) : (s.raise a).flag n = s.flag n := by
  unfold raise
  split
  · exact s.flag_setFlag_of_ne h true
  · rfl

/-- To raise a flag twice is to raise it once. -/
theorem raise_raise : (s.raise a).raise a = s.raise a := by
  by_cases ha : s.allows a = true
  · have ha' : (s.raise a).allows a = true := by rwa [allows_raise]
    rw [raise_of_allows ha', raise_of_allows ha, setFlag_setFlag_self]
  · rw [raise_of_not_allows ha, raise_of_not_allows ha]

/-- Two flags may be raised in any order, also where both are the same. -/
theorem raise_comm : (s.raise a).raise b = (s.raise b).raise a := by
  -- Where both may be raised the flags are set in either order; a flag that may not stays out of it.
  by_cases ha : s.allows a = true
  · by_cases hb : s.allows b = true
    · have ha' : (s.raise b).allows a = true := by rwa [allows_raise]
      have hb' : (s.raise a).allows b = true := by rwa [allows_raise]
      rw [raise_of_allows ha', raise_of_allows hb', raise_of_allows ha, raise_of_allows hb,
        setFlag_comm]
    · have hb' : ¬ (s.raise a).allows b = true := by rwa [allows_raise]
      rw [raise_of_not_allows hb', raise_of_not_allows hb]
  · have ha' : ¬ (s.raise b).allows a = true := by rwa [allows_raise]
    rw [raise_of_not_allows ha', raise_of_not_allows ha]

/-- To raise the flag of one member does not change what another one, or the same, is answered. -/
theorem openable_raise {a b : Member} (h : a.serial = b.serial → a = b) :
    (s.raise b).openable a = s.openable a := by
  rw [openable, openable, allows_raise]
  by_cases hserial : a.serial = b.serial
  · obtain rfl := h hserial
    -- A member that may be opened was answered so before, and any other one is not touched.
    by_cases hallows : s.allows a = true
    · simp [hallows]
    · rw [raise_of_not_allows hallows]
  · rw [flag_raise_of_ne s b hserial]

end AccessState

namespace Gate

variable {g : Gate} {m a b : Member}

/-! ### One elevation -/

/-- An attempt to raise a flag does what the state says, and hands out no handle. -/
theorem access_raise (g : Gate) (m : Member) (logging : Bool) :
    (g.raise m logging).access = g.access.raise m ∧ (g.raise m logging).handles = g.handles := by
  unfold raise
  by_cases h : g.access.allows m = true
  · rw [setAccessible_of_allows fun _ => h, AccessState.raise_of_allows h]
    exact ⟨rfl, rfl⟩
  · rw [setAccessible_of_not_allows (eq_false_of_ne_true h), AccessState.raise_of_not_allows h]
    cases logging with
    | false => exact ⟨rfl, rfl⟩
    | true => exact ⟨rfl, rfl⟩

/-- So does an elevation: where the flag is up already there is nothing to raise. -/
theorem access_elevate (g : Gate) (hm : m.supported = true) (logging : Bool) :
    (g.elevate m logging).2.access = g.access.raise m ∧ (g.elevate m logging).2.handles = g.handles := by
  rw [elevate_eq g logging hm]
  by_cases hflag : g.accessible m = true
  · rw [if_pos hflag]
    refine ⟨?_, rfl⟩
    by_cases h : g.access.allows m = true
    · rw [AccessState.raise_of_allows h, g.access.setFlag_of_flag hflag]
    · rw [AccessState.raise_of_not_allows h]
  · rw [if_neg hflag]
    exact g.access_raise m logging

/-- An elevation answers whether the flag is up or may be raised. -/
theorem Sound.answer_elevate (hs : g.Sound) (hm : m ∈ g.handles) (logging : Bool) :
    (g.elevate m logging).1 = .ok (g.access.openable m) :=
  (hs.elevate_eq hm logging).1

/-- After an elevation the gate is sound. -/
theorem Sound.elevate (hs : g.Sound) (hm : m ∈ g.handles) (logging : Bool) :
    (g.elevate m logging).2.Sound :=
  hs.effect (effect_elevate hm (hs.supported m hm) logging)

/-- To elevate one member does not change what another one, or the same, is answered. -/
theorem Sound.openable_raise (hs : g.Sound) (ha : a ∈ g.handles) (hb : b ∈ g.handles) :
    (g.access.raise b).openable a = g.access.openable a :=
  g.access.openable_raise (hs.numbered.unique a ha b hb)

/-- An elevation that comes after another one is answered as if it were made first. -/
theorem Sound.elevate_after (hs : g.Sound) (ha : a ∈ g.handles) (hb : b ∈ g.handles)
    (logging logging' : Bool) :
    ((g.elevate b logging').2.elevate a logging).1 = .ok (g.access.openable a) ∧
      ((g.elevate b logging').2.elevate a logging).2.access = (g.access.raise b).raise a ∧
      ((g.elevate b logging').2.elevate a logging).2.handles = g.handles := by
  obtain ⟨hbefore, hhandles⟩ := g.access_elevate (hs.supported b hb) logging'
  have ha' : a ∈ (g.elevate b logging').2.handles := by rwa [hhandles]
  have hs' := hs.elevate hb logging'
  obtain ⟨hafter, hkept⟩ := access_elevate _ (hs'.supported a ha') logging
  refine ⟨?_, ?_, ?_⟩
  · rw [hs'.answer_elevate ha', hbefore, hs.openable_raise ha hb]
  · rw [hafter, hbefore]
  · rw [hkept, hhandles]

/-! ### Many elevations -/

/-- An elevation to be made: the handle, and whether there is a log. -/
structure Request where
  member : Member
  logging : Bool

/-- Make elevations in order, and give every member with its answer. -/
def elevateAll (g : Gate) : List Request → List (Member × Except Panic Bool) × Gate
  | [] => ([], g)
  | r :: rs =>
    let (answer, g') := g.elevate r.member r.logging
    let (answers, g'') := g'.elevateAll rs
    ((r.member, answer) :: answers, g'')

/-- Each elevation is answered as if it were the only one, and raises one flag. -/
theorem Sound.elevateAll_eq (hs : g.Sound) {rs : List Request} (hrs : ∀ r ∈ rs, r.member ∈ g.handles) :
    (g.elevateAll rs).1 = rs.map (fun r => (r.member, .ok (g.access.openable r.member))) ∧
      (g.elevateAll rs).2.access = rs.foldl (fun s r => s.raise r.member) g.access := by
  induction rs generalizing g with
  | nil => exact ⟨rfl, rfl⟩
  | cons r rs ih =>
    rw [List.forall_mem_cons] at hrs
    obtain ⟨hm, hrest⟩ := hrs
    obtain ⟨haccess, hhandles⟩ := g.access_elevate (hs.supported _ hm) r.logging
    obtain ⟨hanswers, hafter⟩ := ih (hs.elevate hm r.logging) (hhandles ▸ hrest)
    -- The later ones are answered as they would have been before the first.
    have hsame : rs.map (fun r' => (r'.member, Except.ok (ε := Panic)
          ((g.access.raise r.member).openable r'.member))) =
        rs.map fun r' => (r'.member, .ok (g.access.openable r'.member)) := by
      apply List.map_congr_left
      intro r' hr'
      rw [hs.openable_raise (hrest r' hr') hm]
    rw [haccess] at hanswers hafter
    rw [hsame] at hanswers
    refine ⟨?_, hafter⟩
    rw [List.map_cons, ← hanswers, ← hs.answer_elevate hm r.logging]
    rfl

/-- What holds of all members in circulation at a gate, whatever their flags and policies are. -/
structure ElevationLaws (g : Gate) : Prop where
  /-- A second elevation is answered as the first, and changes no flag, policy or handle. -/
  idempotent : ∀ m ∈ g.handles, ∀ logging logging',
    ((g.elevate m logging).2.elevate m logging').1 = (g.elevate m logging).1 ∧
      ((g.elevate m logging).2.elevate m logging').2.access = (g.elevate m logging).2.access ∧
      ((g.elevate m logging).2.elevate m logging').2.handles = (g.elevate m logging).2.handles
  /-- Of two elevations each is answered as if it were made first, and the order makes no difference for
      flags and policies. -/
  commutative : ∀ a ∈ g.handles, ∀ b ∈ g.handles, ∀ logging logging',
    ((g.elevate b logging').2.elevate a logging).1 = (g.elevate a logging).1 ∧
      ((g.elevate a logging).2.elevate b logging').2.access =
        ((g.elevate b logging').2.elevate a logging).2.access
  /-- Elevations may be made in any order: the answers are the same, and so are flags and policies. -/
  reordered : ∀ rs rs', (∀ r ∈ rs, r.member ∈ g.handles) → rs.Perm rs' →
    (g.elevateAll rs).1.Perm (g.elevateAll rs').1 ∧
      (g.elevateAll rs).2.access = (g.elevateAll rs').2.access
  /-- Of many elevations, those of one member all have one answer, a Boolean. -/
  answered : ∀ rs, (∀ r ∈ rs, r.member ∈ g.handles) → ∀ e ∈ (g.elevateAll rs).1,
    ∃ yes, ∀ e' ∈ (g.elevateAll rs).1, e'.1.serial = e.1.serial → e'.2 = .ok yes
  /-- An elevation changes no policy, and no flag but that of its member. -/
  localized : ∀ m ∈ g.handles, ∀ logging,
    (g.elevate m logging).2.access.policies = g.access.policies ∧
      ∀ n, n ≠ m.serial → (g.elevate m logging).2.access.flag n = g.access.flag n

/-- The laws hold after every run, and so for all flags and policies that members can come to have. -/
theorem elevationLaws_run (ms : List Move) : ElevationLaws (run ms) := by
  have hs := Sound.run ms
  generalize run ms = g at hs
  have haccess : ∀ m ∈ g.handles, ∀ logging, (g.elevate m logging).2.access = g.access.raise m :=
    fun m hm logging => (g.access_elevate (hs.supported m hm) logging).1
  refine ⟨?_, ?_, ?_, ?_, ?_⟩
  · intro m hm logging logging'
    obtain ⟨hanswer, hafter, hkept⟩ := hs.elevate_after hm hm logging' logging
    refine ⟨?_, ?_, ?_⟩
    · rw [hanswer, hs.answer_elevate hm]
    · rw [hafter, AccessState.raise_raise, haccess m hm]
    · rw [hkept, (g.access_elevate (hs.supported m hm) logging).2]
  · intro a ha b hb logging logging'
    obtain ⟨hanswer, hafter, -⟩ := hs.elevate_after ha hb logging logging'
    obtain ⟨-, hafter', -⟩ := hs.elevate_after hb ha logging' logging
    refine ⟨?_, ?_⟩
    · rw [hanswer, hs.answer_elevate ha]
    · rw [hafter, hafter', AccessState.raise_comm]
  · intro rs rs' hrs hperm
    have hrs' : ∀ r ∈ rs', r.member ∈ g.handles := fun r hr => hrs r (hperm.mem_iff.mpr hr)
    obtain ⟨hanswers, hafter⟩ := hs.elevateAll_eq hrs
    obtain ⟨hanswers', hafter'⟩ := hs.elevateAll_eq hrs'
    rw [hanswers, hanswers', hafter, hafter']
    refine ⟨hperm.map _, hperm.foldl_eq' (fun r _ r' _ s => ?_) _⟩
    exact s.raise_comm r.member r'.member
  · intro rs hrs e he
    rw [(hs.elevateAll_eq hrs).1] at he ⊢
    obtain ⟨r, hr, rfl⟩ := List.mem_map.mp he
    refine ⟨g.access.openable r.member, fun e' he' hserial => ?_⟩
    obtain ⟨r', hr', rfl⟩ := List.mem_map.mp he'
    rw [hs.numbered.unique _ (hrs r' hr') _ (hrs r hr) hserial]
  · intro m hm logging
    rw [haccess m hm]
    exact ⟨g.access.policies_raise m, fun n hn => g.access.flag_raise_of_ne m hn⟩

end Gate

end Interop
