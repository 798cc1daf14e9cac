import Interop.Proofs.Causes
import Interop.Proofs.Conversation
import Interop.Proofs.Naming
import Interop.Proofs.Racing

namespace Interop

/-!
# What a handle is good for

A handle is built once and used at any time after, while types, handles and instances come and go. A
foreign platform that leaves the check of constructors as it is may have any type behind its handles.

* `Platform.checks`, `Handle.instantiate_eq` — platforms with the check of constructors, and what comes
  of instantiating through their handles.
* `Handle.Warranted` — what a validating platform vouches for.
* `Process.born` — the instances that are made in a move; `Process.Gain`, `Process.Sound.gain_step` —
  what a move adds to the references.
* `Process.Turn`, `Process.after` — moves, and foreign platforms that give out any type; any sequence of
  them from the start. `Process.instances` — the instances that are made in it.
* `Process.Secure`, `Process.Secure.after` — the invariant: what a validating platform vouched for holds.
* `Process.HandleLaws`, `Process.handleLaws_after` — what handles are good for after every run.

A handle is a type and a platform, and that the type has a constructor is part of it. What else has to
hold for an instance to be made is that the constructor is accessible and willing, which for a
validating platform is a fact about the types that it makes, and which nobody can take away later, as
types do not change. So the invariant is about handles in circulation, and it is kept by every move
for one reason: `Gain` lists all that a move can add to the references. The same list gives the
numbers of instances: what is made takes the next number, and everything else leaves the counter
alone.
-/

/-! ### Instances through one handle -/

/-- Whether the platform checks constructors before it makes instances, and does no more. -/
def Platform.checks : Platform → Bool
  | .caching _ | .uncached | .foreign _ => true
  | .defective _ => false

/-- A platform that validates checks constructors, too. -/
theorem Platform.checks_of_validates {p : Platform} (hp : p.validates = true) : p.checks = true := by
  cases p with
  | caching | uncached => rfl
  | foreign | defective => cases hp

namespace Handle

variable {η : Type} {h : Handle}

/-- What comes of an attempt to make an instance through a handle. Access comes first. -/
theorem instantiate_eq (hp : h.platform.checks = true) {c : Constructor}
    (hc : h.type.constructor = some c) (handler : η) (next : Nat) :
    h.instantiate handler next =
      if !c.accessible then
        (.error (.illegalState ("cannot instantiate " ++ h.type.name)
          (some (.illegalAccess h.type.name))), next)
      else if !c.instantiable then
        (.error (.illegalState ("cannot instantiate " ++ h.type.name)
          (some (.notInstantiable h.type.name))), next)
      else (.ok ⟨next, h.type, handler⟩, next + 1) := by
  -- On such a platform nothing is asked but the constructor.
  have hcheck : h.platform.check h.type = h.type.ready := by
    cases hplatform : h.platform with
    | caching | uncached | foreign => rfl
    | defective => rw [hplatform] at hp; cases hp
  rw [instantiate, Platform.instantiate, hcheck, ProxyType.ready, hc]
  obtain ⟨accessible, instantiable⟩ := c
  cases accessible <;> cases instantiable <;> rfl

/-- A handle is one on the given type and platform. -/
theorem of_eq_ok_iff {p : Platform} {t : ProxyType} :
    Handle.of p t = .ok h ↔ h.platform = p ∧ h.type = t := by
  unfold Handle.of
  constructor
  · intro hof
    split at hof
    · cases hof
      exact ⟨rfl, rfl⟩
    · cases hof
  · rintro ⟨rfl, rfl⟩
    rw [dif_pos h.constructible]

/-- A validating platform has the default constructor behind the handle. -/
def Warranted (h : Handle) : Prop :=
  h.platform.validates = true → h.type.constructor = some {}

/-- Then an instance can always be made. -/
theorem Warranted.instantiate_eq (hw : h.Warranted) (hv : h.platform.validates = true) (handler : η)
    (next : Nat) : h.instantiate handler next = (.ok ⟨next, h.type, handler⟩, next + 1) :=
  Handle.instantiate_eq (Platform.checks_of_validates hv) (hw hv) handler next

end Handle

/-! ### What a move adds

A move may add one reference. If it is an instance it takes the next number, and if it is a handle a
platform has vouched for it or nobody has to.
-/

namespace Process

variable {η : Type} {s : Process η}

/-- The instances that are made in a move. -/
def born (s : Process η) : Move η → List (Proxy η)
  | .instantiate place handler =>
    match s.refs[place]? with
    | some (.handle h) => (s.instantiate h handler).1.toOption.toList
    | _ => []
  | .attach place p handler =>
    match s.refs[place]? with
    | none => []
    | some r => (s.attach r.target p handler).1.toOption.toList
  | .platform | .request .. | .handle .. | .define .. | .clone _ | .share _ | .drop _ => []

/-- What is added to a process while the instances in the list are made. -/
inductive Gain (s : Process η) : List (Proxy η) → Process η → Prop
  /-- References to types at most. -/
  | types {s' : Process η} (next : s'.nextProxy = s.nextProxy)
      (refs : ∀ r ∈ s'.refs, r ∈ s.refs ∨ ∃ t, r = .type t) : Gain s [] s'
  | handle {s' : Process η} {h : Handle} (next : s'.nextProxy = s.nextProxy)
      (refs : s'.refs = .handle h :: s.refs) (warranted : h.Warranted) : Gain s [] s'
  | proxy {s' : Process η} {p : Proxy η} (number : p.id = s.nextProxy)
      (next : s'.nextProxy = s.nextProxy + 1) (refs : s'.refs = .proxy p :: s.refs) : Gain s [p] s'

/-- To leave the process as it is adds nothing. -/
theorem Gain.same : s.Gain [] s :=
  .types rfl fun _ hr => .inl hr

/-- An attempt adds the instance, if one is made. -/
theorem Gain.adopt {ε : Type} {t : ProxyType} {handler : η} {r : Except ε (Proxy η) × Nat}
    (h : Attempt t handler s.nextProxy r) : s.Gain (s.adopt r).1.toOption.toList (s.adopt r).2 := by
  cases h with
  | failed e => exact .same
  | made => exact .proxy rfl rfl rfl

/-- A handle that is built is added, with what its platform vouches for. -/
theorem Gain.receive {p : Platform} {built : Except BridgeError Handle × List Note × Foundry}
    (h : ∀ h, built.1 = .ok h → h.Warranted) : s.Gain [] (s.receive p built).2 := by
  obtain ⟨e | h', notes, f⟩ := built
  · exact .types rfl fun _ hr => .inl hr
  · exact .handle (accept_nextProxy ..) (accept_refs ..) (h h' rfl)

/-- To take a handle changes nothing about the answer. -/
theorem receive_fst (p : Platform) (built : Except BridgeError Handle × List Note × Foundry) :
    (s.receive p built).1 = built.1 := by
  obtain ⟨e | h, notes, f⟩ := built <;> rfl

/-- The handles that can be built are those on types that the platform gives out. -/
theorem build_eq_ok_iff {p : Platform} {o : HandleOrigin} {h : Handle} :
    (s.build p o).1 = .ok h ↔ h.platform = p ∧ ∃ d is, o.asks = [(d, is)] ∧
      (s.foundry.proxyType s.alive p d is).1 = .ok h.type := by
  rw [build, receive_fst]
  rcases s.foundry.handleFrom_cases s.alive p o with ⟨hasks, heq⟩ | ⟨d, is, hasks, heq⟩
  · rw [heq, hasks]
    simp
  · rw [heq, hasks, Foundry.handleIn_eq]
    cases hanswer : (s.foundry.proxyType s.alive p d is).1 with
    | error e =>
      constructor
      · intro h
        cases h
      · rintro ⟨-, d', is', hq, ht⟩
        cases hq
        rw [hanswer] at ht
        cases ht
    | ok t =>
      show Handle.of p t = .ok h ↔ _
      rw [Handle.of_eq_ok_iff]
      refine and_congr_right fun _ => ⟨fun ht => ⟨d, is, rfl, ht ▸ hanswer⟩, ?_⟩
      rintro ⟨d', is', hq, ht⟩
      cases hq
      exact Except.ok.inj (ht.symm.trans hanswer)

/-- A platform that validates vouches for the types of its handles. -/
theorem Sound.warranted_of_build (hs : s.Sound) {p : Platform} {o : HandleOrigin} {h : Handle}
    (hbuilt : (s.build p o).1 = .ok h) : h.Warranted := by
  obtain ⟨rfl, d, is, -, hanswer⟩ := build_eq_ok_iff.mp hbuilt
  exact fun hv => (hs.synthesized_of_proxyType hv hanswer).constructor_eq

/-- Whatever a move does, it adds one reference at most that is not to a type. -/
theorem Sound.gain_step (hs : s.Sound) (m : Move η) : s.Gain (s.born m) (s.step m) := by
  cases m with
  | platform => exact .types rfl fun _ hr => .inl hr
  | request p d is =>
    simp only [Process.step]
    split
    next =>
      unfold request
      rcases s.foundry.proxyType s.alive p d is with ⟨e | t, notes, f⟩
      · exact .types rfl fun _ hr => .inl hr
      · refine .types (accept_nextProxy ..) fun r hr => ?_
        rw [accept_refs] at hr
        exact (List.mem_cons.mp hr).symm.imp_right fun h => ⟨t, h⟩
    next => exact .same
  | handle p o =>
    simp only [Process.step]
    split
    -- Here alone it matters what the caches hold: a hit gives out a type of long ago.
    next => exact .receive fun h hbuilt => hs.warranted_of_build ((receive_fst ..).trans hbuilt)
    next => exact .same
  | define d is table constructor =>
    exact .types rfl fun r hr => (List.mem_cons.mp hr).symm.imp_right fun h => ⟨_, h⟩
  | clone place =>
    simp only [Process.step]
    split
    next => exact .same
    next q hq =>
      refine .types rfl fun r hr => .inl ?_
      rcases List.mem_cons.mp hr with rfl | hr
      · exact List.mem_of_getElem? hq
      · exact hr
  | share place =>
    simp only [Process.step]
    split
    next => exact .same
    next q _ => exact .types rfl fun r hr => (List.mem_cons.mp hr).symm.imp_right fun h => ⟨_, h⟩
  | drop place => exact .types rfl fun r hr => .inl (List.mem_of_mem_eraseIdx hr)
  | instantiate place handler =>
    cases hr : s.refs[place]? with
    | none =>
      simp only [Process.step, born, hr]
      exact .same
    | some r =>
      cases r with
      | type | proxy =>
        simp only [Process.step, born, hr]
        exact .same
      | handle h =>
        simp only [Process.step, born, hr]
        exact .adopt (h.attempt_instantiate handler s.nextProxy)
  | attach place p handler =>
    cases hr : s.refs[place]? with
    | none =>
      simp only [Process.step, born, hr]
      exact .same
    | some r =>
      simp only [Process.step, born, hr]
      cases p with
      | none => exact .adopt (ε := InstantiationError) .made
      | some p => exact .adopt (p.attempt_instantiate r.target handler s.nextProxy)

/-! ### Runs -/

/-- What can happen, where foreign platforms may give out any type. -/
inductive Turn (η : Type)
  | move (m : Move η)
  /-- A foreign platform answers a request for a handle with the type at a place. -/
  | offer (place : Nat)

/-- Build a handle on a type that a foreign platform gives out. -/
def offer (s : Process η) (t : ProxyType) : Except BridgeError Handle × Process η :=
  s.receive (.foreign none) (Handle.of (.foreign none) t, [], s.foundry)

/-- The process after a turn. -/
def turn (s : Process η) : Turn η → Process η
  | .move m => s.step m
  | .offer place =>
    match s.refs[place]? with
    | none => s
    | some r => (s.offer r.target).2

/-- The process after turns in order. -/
def turns (s : Process η) (ts : List (Turn η)) : Process η :=
  ts.foldl turn s

/-- The process after turns in order from the start. -/
def after (ts : List (Turn η)) : Process η :=
  turns {} ts

/-- The instances that are made in turns, in the order in which they are made. -/
def instances (s : Process η) : List (Turn η) → List (Proxy η)
  | [] => []
  | .move m :: ts => s.born m ++ instances (s.step m) ts
  | .offer place :: ts => instances (s.turn (.offer place)) ts

/-- The invariant: whatever a validating platform vouched for holds. -/
structure Secure (s : Process η) : Prop where
  sound : s.Sound
  warranted : ∀ h, .handle h ∈ s.refs → h.Warranted

/-- At the start there are no handles. -/
theorem Secure.start : ({} : Process η).Secure :=
  ⟨.start, by simp⟩

/-- Whatever is added, handles that were warranted stay so, and new ones are. -/
theorem Secure.gain (hs : s.Secure) {born : List (Proxy η)} {s' : Process η} (hs' : s'.Sound)
    (h : s.Gain born s') : s'.Secure := by
  refine ⟨hs', fun h' hh => ?_⟩
  cases h with
  | types _ refs =>
    rcases refs _ hh with hh | ⟨t, ht⟩
    · exact hs.warranted h' hh
    · cases ht
  | handle _ refs warranted =>
    rw [refs] at hh
    rcases List.mem_cons.mp hh with heq | hh
    · cases heq
      exact warranted
    · exact hs.warranted h' hh
  | proxy _ _ refs =>
    rw [refs] at hh
    rcases List.mem_cons.mp hh with heq | hh
    · cases heq
    · exact hs.warranted h' hh

/-- A handle that a foreign platform offers is on a type that is held already, and nobody vouches for
    it. -/
theorem Sound.offer (hs : s.Sound) (place : Nat) :
    (s.turn (.offer place)).Sound ∧ s.Gain [] (s.turn (.offer place)) := by
  simp only [turn]
  split
  next => exact ⟨hs, .same⟩
  next r hr =>
    have hnone : ∀ h, Handle.of (.foreign none) r.target = .ok h → h.Warranted := by
      intro h hof hv
      rw [(Handle.of_eq_ok_iff.mp hof).1] at hv
      cases hv
    refine ⟨?_, .receive hnone⟩
    unfold Process.offer
    cases hof : Handle.of (.foreign none) r.target with
    | error e => exact hs
    | ok h =>
      have htype : h.type = r.target := (Handle.of_eq_ok_iff.mp hof).2
      have hheld : s.Holds h.type := ⟨r, List.mem_of_getElem? hr, htype.symm⟩
      exact hs.hold (r := .handle h) hheld

/-- Every turn keeps the invariant. -/
theorem Secure.turn (hs : s.Secure) (t : Turn η) : (s.turn t).Secure := by
  cases t with
  | move m => exact hs.gain (hs.sound.step m) (hs.sound.gain_step m)
  | offer place => exact hs.gain (hs.sound.offer place).1 (hs.sound.offer place).2

/-- Turns keep it, too. -/
theorem Secure.turns (hs : s.Secure) (ts : List (Turn η)) : (s.turns ts).Secure :=
  List.foldlRecOn ts Process.turn hs fun _ hs t _ => hs.turn t

/-- The invariant holds after every run. -/
theorem Secure.after (ts : List (Turn η)) : (after ts).Secure :=
  Secure.start.turns ts

/-- What is made takes the next numbers. -/
theorem Gain.numbered {born : List (Proxy η)} {s' : Process η} (h : s.Gain born s') :
    born.map (·.id) = List.range' s.nextProxy born.length ∧
      s'.nextProxy = s.nextProxy + born.length := by
  cases h with
  | types next => exact ⟨rfl, next⟩
  | handle next => exact ⟨rfl, next⟩
  | proxy number next => exact ⟨congrArg (· :: []) number, next⟩

/-- An instance in circulation was there before, or was made just now. -/
theorem Gain.proxies {born : List (Proxy η)} {s' : Process η} (h : s.Gain born s') {p : Proxy η}
    (hp : .proxy p ∈ s'.refs) : .proxy p ∈ s.refs ∨ p ∈ born := by
  cases h with
  | types _ refs =>
    rcases refs _ hp with hp | ⟨t, ht⟩
    · exact .inl hp
    · cases ht
  | handle _ refs =>
    rw [refs] at hp
    rcases List.mem_cons.mp hp with heq | hp
    · cases heq
    · exact .inl hp
  | proxy _ _ refs =>
    rw [refs] at hp
    rcases List.mem_cons.mp hp with heq | hp
    · cases heq
      exact .inr (List.mem_singleton.mpr rfl)
    · exact .inl hp

/-- The instances of a run are numbered one after the other, whatever else goes on. -/
theorem Secure.numbered_instances (hs : s.Secure) (ts : List (Turn η)) :
    (s.instances ts).map (·.id) = List.range' s.nextProxy (s.instances ts).length ∧
      (s.turns ts).nextProxy = s.nextProxy + (s.instances ts).length := by
  induction ts generalizing s with
  | nil => exact ⟨rfl, rfl⟩
  | cons t ts ih =>
    obtain ⟨hids, hnext⟩ := ih (hs.turn t)
    cases t with
    | move m =>
      obtain ⟨hborn, hstep⟩ := (hs.sound.gain_step m).numbered
      replace hids : ((s.step m).instances ts).map (·.id) =
        List.range' (s.step m).nextProxy ((s.step m).instances ts).length := hids
      replace hnext : ((s.step m).turns ts).nextProxy =
        (s.step m).nextProxy + ((s.step m).instances ts).length := hnext
      -- The numbers of the rest go on where those of the move end.
      constructor
      · rw [instances, List.map_append, List.length_append, hborn, hids, hstep, List.range'_append_1]
      · show ((s.step m).turns ts).nextProxy = _
        rw [hnext, hstep, instances, List.length_append, Nat.add_assoc]
    | offer place =>
      obtain ⟨-, hstep⟩ := (hs.sound.offer place).2.numbered
      rw [List.length_nil, Nat.add_zero] at hstep
      rw [hstep] at hids hnext
      exact ⟨hids, hnext⟩

/-- An instance in circulation was there before the run, or was made in it. -/
theorem Secure.mem_instances (hs : s.Secure) (ts : List (Turn η)) {p : Proxy η}
    (hp : .proxy p ∈ (s.turns ts).refs) : .proxy p ∈ s.refs ∨ p ∈ s.instances ts := by
  induction ts generalizing s with
  | nil => exact .inl hp
  | cons t ts ih =>
    have hlater := ih (hs.turn t) hp
    cases t with
    | move m =>
      rcases hlater with hp | hp
      · exact ((hs.sound.gain_step m).proxies hp).imp_right (List.mem_append_left _)
      · exact .inr (List.mem_append_right _ hp)
    | offer place =>
      rcases hlater with hp | hp
      · exact .inl (((hs.sound.offer place).2.proxies hp).resolve_right List.not_mem_nil)
      · exact .inr hp

/-! ### The laws of handles -/

/-- What handles are good for after a run. -/
structure HandleLaws (ts : List (Turn η)) : Prop where
  /-- A handle can be had on a type iff the type has a constructor for handlers. -/
  exists_iff : ∀ (p : Platform) (t : ProxyType),
    (∃ h, Handle.of p t = .ok h) ↔ t.constructor.isSome = true
  /-- There is no handle on any other type, -/
  constructible : ∀ h : Handle, ∃ c, h.type.constructor = some c
  /-- and one is built on the type that the platform gives out. -/
  origin : ∀ (p : Platform) (o : HandleOrigin) (h : Handle), ((after ts).build p o).1 = .ok h ↔
    h.platform = p ∧ ∃ d is, o.asks = [(d, is)] ∧
      ((after ts).foundry.proxyType (after ts).alive p d is).1 = .ok h.type
  /-- Through a handle on a platform that checks, an instance is made iff the constructor is accessible
      and lets instances be made, -/
  succeeds : ∀ (h : Handle) (c : Constructor) (handler : η), h.platform.checks = true →
    h.type.constructor = some c →
      ((∃ p, ((after ts).instantiate h handler).1 = .ok p) ↔
        c.accessible = true ∧ c.instantiable = true)
  /-- the failure is the illegal access whatever else is wrong, -/
  illegalAccess : ∀ (h : Handle) (c : Constructor) (handler : η), h.platform.checks = true →
    h.type.constructor = some c → c.accessible = false →
      ((after ts).instantiate h handler).1 =
        .error (.illegalState ("cannot instantiate " ++ h.type.name)
          (some (.illegalAccess h.type.name)))
  notInstantiable : ∀ (h : Handle) (c : Constructor) (handler : η), h.platform.checks = true →
    h.type.constructor = some c → c.accessible = true → c.instantiable = false →
      ((after ts).instantiate h handler).1 =
        .error (.illegalState ("cannot instantiate " ++ h.type.name)
          (some (.notInstantiable h.type.name)))
  /-- and it is never that there is no constructor. -/
  present : ∀ (h : Handle) (handler : η) (text : String), h.platform.checks = true →
    ((after ts).instantiate h handler).1 ≠
      .error (.illegalState text
        (some (.notInstantiable (h.type.name ++ " has no handler constructor"))))
  /-- A failure leaves everything as it was, the next number included. -/
  failed : ∀ (h : Handle) (handler : η) (e : BridgeError),
    ((after ts).instantiate h handler).1 = .error e → ((after ts).instantiate h handler).2 = after ts
  /-- It calls nobody, and neither does an instance that is made. -/
  silent : ∀ {α σ : Type} (host : Host α σ) (h : Handle) (b : Bridge σ) (adapter : α)
    (target : CallTarget) (payload : Option Payload),
    (host.make h b adapter target payload).calls = host.calls ∧
      ∀ e, (host.process.instantiate h (b.forwarding adapter target payload)).1 = .error e →
        host.make h b adapter target payload = host
  /-- A handle that is in circulation on a validating platform makes an instance whenever it is asked
      to, whatever has come and gone since. -/
  lasting : ∀ (h : Handle), .handle h ∈ (after ts).refs → h.platform.validates = true →
    ∀ (later : List (Turn η)) (handler : η),
      ((after (ts ++ later)).instantiate h handler).1 =
        .ok ⟨(after (ts ++ later)).nextProxy, h.type, handler⟩
  /-- So does one that is newly built. -/
  built : ∀ (p : Platform) (o : HandleOrigin) (h : Handle), ((after ts).build p o).1 = .ok h →
    p.validates = true → ∀ (later : List (Turn η)) (handler : η),
      ((after (ts ++ later)).instantiate h handler).1 =
        .ok ⟨(after (ts ++ later)).nextProxy, h.type, handler⟩
  /-- So does one on a type that came out of a race for a cache. -/
  raced : ∀ (race : List Interop.Turn) (k : TypeKey) (t : ProxyType), (k, t) ∈ (Race.run race).held →
    ∀ store, ∃ h, Handle.of (.caching store) t = .ok h ∧
      ∀ (s : Process η) (handler : η), (s.instantiate h handler).1 = .ok ⟨s.nextProxy, t, handler⟩
  /-- All instances in circulation were made in the run, -/
  born : ∀ p, .proxy p ∈ (after ts).refs → p ∈ instances {} ts
  /-- and the run numbers its instances from one without a gap, -/
  numbered : (instances {} ts).map (·.id) = List.range' 1 (instances {} ts).length
  /-- so no two of them have one number, and not as 64-bit words either if they are few enough. -/
  distinct : ((instances {} ts).map (·.id)).Nodup ∧
    ((instances {} ts).length ≤ UInt64.size →
      ((instances {} ts).map (·.id % UInt64.size)).Nodup)

/-- What a validating platform vouches for is good at any later time. -/
theorem instantiate_of_warranted {h : Handle} (hw : h.Warranted) (hv : h.platform.validates = true)
    (s : Process η) (handler : η) :
    (s.instantiate h handler).1 = .ok ⟨s.nextProxy, h.type, handler⟩ := by
  rw [instantiate, hw.instantiate_eq hv]
  rfl

/-- The answer of an attempt through a handle on a platform that checks. -/
theorem instantiate_of_checks {h : Handle} (hp : h.platform.checks = true) {c : Constructor}
    (hc : h.type.constructor = some c) (s : Process η) (handler : η) :
    (s.instantiate h handler).1 =
      if !c.accessible then
        .error (.illegalState ("cannot instantiate " ++ h.type.name)
          (some (.illegalAccess h.type.name)))
      else if !c.instantiable then
        .error (.illegalState ("cannot instantiate " ++ h.type.name)
          (some (.notInstantiable h.type.name)))
      else .ok ⟨s.nextProxy, h.type, handler⟩ := by
  rw [instantiate, Handle.instantiate_eq hp hc]
  cases c.accessible <;> cases c.instantiable <;> rfl

/-- A failed attempt leaves the process as it was. -/
theorem instantiate_failed {h : Handle} {handler : η} {e : BridgeError}
    (he : (s.instantiate h handler).1 = .error e) : (s.instantiate h handler).2 = s := by
  have hattempt := h.attempt_instantiate handler s.nextProxy
  unfold instantiate at he ⊢
  generalize h.instantiate handler s.nextProxy = r at he hattempt
  cases hattempt with
  | failed => rfl
  | made => cases he

/-- A handle on a platform that checks never fails for want of a constructor. -/
theorem instantiate_ne_missing {h : Handle} (hp : h.platform.checks = true) (s : Process η)
    (handler : η) (text : String) :
    (s.instantiate h handler).1 ≠ .error (.illegalState text
      (some (.notInstantiable (h.type.name ++ " has no handler constructor")))) := by
  obtain ⟨c, hc⟩ := Option.isSome_iff_exists.mp h.constructible
  have hname : h.type.name ≠ h.type.name ++ " has no handler constructor" := by
    intro heq
    -- The text of the other failure is the bare name of the type, which is shorter.
    have hlength := congrArg String.length heq
    rw [String.length_append] at hlength
    have hpositive : 0 < " has no handler constructor".length := by decide
    omega
  rw [instantiate_of_checks hp hc]
  cases c.accessible <;> cases c.instantiable <;> simp [hname]

/-- A type that is in circulation after a race has the default constructor. -/
theorem constructor_of_held (race : List Interop.Turn) {k : TypeKey} {t : ProxyType}
    (ht : (k, t) ∈ (Race.run race).held) : t.constructor = some {} := by
  have hs := Race.Sound.run race
  obtain ⟨i, hgave⟩ := hs.reference k t ht
  obtain ⟨j, -, hmade⟩ := hs.winner i k t hgave
  exact (hs.made j k t hmade).2.2.constructor_eq

/-- To make an instance begins no call, and an attempt that fails leaves the host as it was. -/
theorem make_silent {α σ : Type} (host : Host α σ) (h : Handle) (b : Bridge σ) (adapter : α)
    (target : CallTarget) (payload : Option Payload) :
    (host.make h b adapter target payload).calls = host.calls ∧
      ∀ e, (host.process.instantiate h (b.forwarding adapter target payload)).1 = .error e →
        host.make h b adapter target payload = host := by
  have hfailed : ∀ e, (host.process.instantiate h (b.forwarding adapter target payload)).1 = .error e →
      (host.process.instantiate h (b.forwarding adapter target payload)).2 = host.process :=
    fun _ => instantiate_failed
  unfold Host.make
  generalize host.process.instantiate h (b.forwarding adapter target payload) = r at hfailed ⊢
  obtain ⟨e | p, process⟩ := r
  · refine ⟨rfl, fun _ _ => ?_⟩
    have hprocess : process = host.process := hfailed e rfl
    rw [hprocess]
  · exact ⟨rfl, fun _ he => by cases he⟩

/-- Numbers that are taken one after the other differ as 64-bit words, too, if there are few enough. -/
theorem nodup_map_mod {ids : List Nat} {n : Nat} (hids : ids = List.range' 1 n)
    (hn : n ≤ UInt64.size) : (ids.map (· % UInt64.size)).Nodup := by
  rw [hids, List.Nodup, List.pairwise_map]
  rw [UInt64.size] at hn ⊢
  -- All of them lie in one stretch that is no longer than the numbers of a word.
  refine List.Pairwise.imp_of_mem ?_ List.nodup_range'
  intro a b ha hb hne
  rw [List.mem_range'_1] at ha hb
  omega

/-- The laws hold after every run. -/
theorem handleLaws_after (ts : List (Turn η)) : HandleLaws ts where
  exists_iff p t := by
    constructor
    · rintro ⟨h, hof⟩
      obtain ⟨-, rfl⟩ := Handle.of_eq_ok_iff.mp hof
      exact h.constructible
    · intro hc
      exact ⟨⟨p, t, hc⟩, Handle.of_eq_ok_iff.mpr ⟨rfl, rfl⟩⟩
  constructible h := Option.isSome_iff_exists.mp h.constructible
  origin _ _ _ := build_eq_ok_iff
  succeeds h c handler hp hc := by
    rw [instantiate_of_checks hp hc]
    cases c.accessible <;> cases c.instantiable <;> simp
  illegalAccess h c handler hp hc haccessible := by
    rw [instantiate_of_checks hp hc, haccessible]
    rfl
  notInstantiable h c handler hp hc haccessible hinstantiable := by
    rw [instantiate_of_checks hp hc, haccessible, hinstantiable]
    rfl
  present _ handler text hp := instantiate_ne_missing hp _ handler text
  failed _ _ _ := instantiate_failed
  silent := make_silent
  lasting h hh hv later handler := by
    have hw : h.Warranted := (Secure.after ts).warranted h hh
    exact instantiate_of_warranted hw hv _ handler
  built p o h hbuilt hp later handler := by
    have hplatform : h.platform = p := (build_eq_ok_iff.mp hbuilt).1
    have hv : h.platform.validates = true := by rw [hplatform, hp]
    have hw : h.Warranted := (Secure.after ts).sound.warranted_of_build hbuilt
    exact instantiate_of_warranted hw hv _ handler
  raced race k t ht store := by
    have hc : t.constructor = some {} := constructor_of_held race ht
    have hsome : t.constructor.isSome = true := by rw [hc]; rfl
    have hw : Handle.Warranted ⟨.caching store, t, hsome⟩ := fun _ => hc
    exact ⟨⟨.caching store, t, hsome⟩, Handle.of_eq_ok_iff.mpr ⟨rfl, rfl⟩, instantiate_of_warranted hw rfl⟩
  born p hp := (Secure.start.mem_instances ts hp).resolve_left List.not_mem_nil
  numbered := (Secure.start.numbered_instances ts).1
  distinct := by
    have hnumbered := (Secure.start.numbered_instances ts).1
    refine ⟨?_, fun hfew => ?_⟩
    · rw [hnumbered]
      exact List.nodup_range'
    · have hmod := nodup_map_mod hnumbered hfew
      rwa [List.map_map] at hmod

end Process

end Interop
