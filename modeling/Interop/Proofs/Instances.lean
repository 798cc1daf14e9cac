import Interop.Proofs.Process

namespace Interop

/-!
# Numbers of instances

* `Attempt` — what an attempt to make an instance comes to; `Platform.attempt_instantiate`,
  `Handle.attempt_instantiate` show that there is nothing else.
* `Process.Extends`, `Process.extends_step` — whatever a move does, new instances have numbers that no
  instance had before.

Instances are made in three ways: through a handle, on a platform, and without any check. All three
take the number that is next and hand it to the instance, or take none; so it is enough to look at
what one attempt does to the counter, and at the moves that make no attempt. Of what a process does to
types nothing is needed here.
-/

/-- What an attempt to make an instance of `t` with the number `next` comes to: a failure takes no
    number, and an instance has exactly what it was made of. -/
inductive Attempt {η ε : Type} (t : ProxyType) (handler : η) (next : Nat) :
    Except ε (Proxy η) × Nat → Prop
  | failed (e : ε) : Attempt t handler next (.error e, next)
  | made : Attempt t handler next (.ok ⟨next, t, handler⟩, next + 1)

namespace Attempt

variable {η ε : Type} {t : ProxyType} {handler : η} {next : Nat}

/-- An instance that was made has the number that was next, the type and the handler. -/
theorem eq_of_ok {r : Except ε (Proxy η) × Nat} (h : Attempt t handler next r) {p : Proxy η}
    (hp : r.1 = .ok p) : p = ⟨next, t, handler⟩ := by
  cases h with
  | failed e => cases hp
  | made => exact (Except.ok.inj hp).symm

end Attempt

/-- A platform makes an instance or fails. -/
theorem Platform.attempt_instantiate {η : Type} (p : Platform) (t : ProxyType) (handler : η)
    (next : Nat) : Attempt t handler next (p.instantiate t handler next) := by
  unfold Platform.instantiate
  split
  next e _ => exact .failed e
  next => exact .made

/-- So does a handle. -/
theorem Handle.attempt_instantiate {η : Type} (h : Handle) (handler : η) (next : Nat) :
    Attempt h.type handler next (h.instantiate handler next) := by
  have hp := h.platform.attempt_instantiate h.type handler next
  unfold Handle.instantiate
  generalize h.platform.instantiate h.type handler next = r at hp
  cases hp with
  | failed e => exact .failed _
  | made => exact .made

namespace Process

variable {η : Type} {s : Process η}

/-- The instances of `s'` that are not instances of `s` have numbers from the counter of `s` on. -/
structure Extends (s s' : Process η) : Prop where
  next : s.nextProxy ≤ s'.nextProxy
  proxies : ∀ p, .proxy p ∈ s'.refs →
    .proxy p ∈ s.refs ∨ s.nextProxy ≤ p.id ∧ p.id < s'.nextProxy

/-- To leave the references as they are adds no instance. -/
theorem Extends.same {s' : Process η} (hnext : s'.nextProxy = s.nextProxy)
    (hrefs : s'.refs = s.refs) : s.Extends s' :=
  ⟨Nat.le_of_eq hnext.symm, fun _ hp => .inl (hrefs ▸ hp)⟩

/-- To hand on any reference but one to a new instance adds no instance. -/
theorem Extends.hold {s' : Process η} {r : Ref η} (hnext : s'.nextProxy = s.nextProxy)
    (hrefs : s'.refs = r :: s.refs) (hr : ∀ p, r = .proxy p → r ∈ s.refs) : s.Extends s' := by
  refine ⟨Nat.le_of_eq hnext.symm, fun p hp => .inl ?_⟩
  rw [hrefs] at hp
  rcases List.mem_cons.mp hp with heq | hp
  · exact heq ▸ hr p heq.symm
  · exact hp

/-- An attempt to make an instance adds that instance at most. -/
theorem Extends.adopt {ε : Type} {t : ProxyType} {handler : η} {r : Except ε (Proxy η) × Nat}
    (h : Attempt t handler s.nextProxy r) : s.Extends (s.adopt r).2 := by
  cases h with
  | failed e => exact .same rfl rfl
  | made =>
    refine ⟨Nat.le_succ _, fun p hp => ?_⟩
    rcases List.mem_cons.mp hp with heq | hp
    · cases heq
      exact .inr ⟨Nat.le_refl _, Nat.lt_succ_self _⟩
    · exact .inl hp

/-- A handle that was built is no instance. -/
theorem Extends.receive (p : Platform) (built : Except BridgeError Handle × List Note × Foundry) :
    s.Extends (s.receive p built).2 := by
  obtain ⟨e | h, notes, f⟩ := built
  · exact .same rfl rfl
  · exact .hold (accept_nextProxy ..) (accept_refs ..) (fun _ h => by cases h)

/-- Whatever a move does, the numbers of instances come from the counter. -/
theorem extends_step (m : Move η) : s.Extends (s.step m) := by
  cases m with
  | platform => exact .same rfl rfl
  | request p d is =>
    simp only [step]
    split
    next =>
      -- A request hands on a type at most, which is no instance.
      unfold request
      rcases s.foundry.proxyType s.alive p d is with ⟨e | t, notes, f⟩
      · exact .same rfl rfl
      · exact .hold (accept_nextProxy ..) (accept_refs ..) (fun _ h => by cases h)
    next => exact .same rfl rfl
  | handle p o =>
    simp only [step]
    split
    next => exact .receive p _
    next => exact .same rfl rfl
  | define d is table constructor => exact .hold rfl rfl (fun _ h => by cases h)
  | clone place =>
    simp only [step]
    split
    next => exact .same rfl rfl
    -- What is cloned may be an instance; then it was one before.
    next r hr => exact .hold rfl rfl fun _ _ => List.mem_of_getElem? hr
  | share place =>
    simp only [step]
    split
    next => exact .same rfl rfl
    next r hr => exact .hold rfl rfl (fun _ h => by cases h)
  | drop place => exact ⟨Nat.le_refl _, fun p hp => .inl (List.mem_of_mem_eraseIdx hp)⟩
  | instantiate place handler =>
    simp only [step]
    split
    next h _ => exact .adopt (h.attempt_instantiate handler s.nextProxy)
    next => exact .same rfl rfl
  | attach place p handler =>
    simp only [step]
    split
    next => exact .same rfl rfl
    next r _ =>
      cases p with
      | none => exact .adopt (ε := InstantiationError) .made
      | some p => exact .adopt (p.attempt_instantiate r.target handler s.nextProxy)

end Process

end Interop
