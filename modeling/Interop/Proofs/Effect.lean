import Interop.Proofs.Cache
import Interop.Proofs.Instances

namespace Interop

/-!
# What a move does

`Process.step` runs through the platforms, the caches and the constructor checks. What matters about
a move to types and their lives is one of three things, listed once here.

* `Process.Served` — what asking a platform makes of a process: it refuses, it gives out a type that
  is held from then on, or it makes one that is dropped at once.
* `Process.Effect` — what a move makes of a process: nothing new, a type of the host's own, or what
  asking a platform makes of it. `Process.effect_step` shows that there is nothing else.

The list is made for proofs about types, and leaves out all that has no part in them. Whether an
instance was made, and with which number, is not in it, nor why a platform refused. A frame may change
a good deal, then, but it does so with held types only. Served requests are given by their answers as
`Foundry.Answer` lists them, so a proof about a move goes on to the three ways of a request without
ever opening one.
-/

namespace Process

variable {η : Type} {s : Process η}

/-- What asking platform `p` for `is` in `d` makes of a process. -/
inductive Served (s : Process η) (p : Platform) (d : Domain) (is : List Interface) :
    Process η → Prop
  | refused {e : ConstructionError} {f : Foundry}
      (answer : s.foundry.Answer s.alive d is p (.error e) f) :
      Served s p d is { s with foundry := f }
  | given {r : Ref η} {f : Foundry} (answer : s.foundry.Answer s.alive d is p (.ok r.target) f) :
      Served s p d is (accept { s with foundry := f } p r)
  /-- The type has no constructor that a handle could use. -/
  | dropped {t : ProxyType} {f : Foundry} (answer : s.foundry.Answer s.alive d is p (.ok t) f)
      (uncached : ∀ store, p ≠ .caching store) :
      Served s p d is { s with foundry := f }

/-- What a move makes of a process. -/
inductive Effect (s : Process η) (m : Move η) : Process η → Prop
  /-- No type is made, and only types that are held already are held afterwards. -/
  | frame {s' : Process η} (cache : ∀ store, s'.foundry.cache store = s.foundry.cache store)
      (next : s'.foundry.next = s.foundry.next) (returned : s'.returned = s.returned)
      (refs : ∀ r ∈ s'.refs, s.Holds r.target) : Effect s m s'
  /-- The host makes a type of its own. -/
  | defined {r : Ref η} (number : r.target.id = s.foundry.next) :
      Effect s m { s.hold r with foundry := { s.foundry with next := s.foundry.next + 1 } }
  | served {p : Platform} {d : Domain} {is : List Interface} {s' : Process η}
      (known : s.knows p = true) (asks : (d, is) ∈ m.asks) (h : s.Served p d is s') : Effect s m s'

variable {m : Move η} {p : Platform} {d : Domain} {is : List Interface}

/-- To change nothing is a frame. -/
theorem Effect.same : s.Effect m s :=
  .frame (fun _ => rfl) rfl rfl fun r hr => ⟨r, hr, rfl⟩

/-- To hand on a reference to a held type is a frame. -/
theorem Effect.hold {r : Ref η} (h : s.Holds r.target) : s.Effect m (s.hold r) := by
  refine .frame (fun _ => rfl) rfl rfl ?_
  intro q hq
  rcases List.mem_cons.mp hq with rfl | hq
  · exact h
  · exact ⟨q, hq, rfl⟩

/-- To make instances of held types is a frame. -/
theorem Effect.adopt {ε : Type} {made : Except ε (Proxy η) × Nat}
    (h : ∀ i, made.1 = .ok i → s.Holds i.type) : s.Effect m (s.adopt made).2 := by
  obtain ⟨e | i, n⟩ := made
  · exact .frame (fun _ => rfl) rfl rfl fun r hr => ⟨r, hr, rfl⟩
  · refine .frame (fun _ => rfl) rfl rfl fun r hr => ?_
    rcases List.mem_cons.mp hr with rfl | hr
    · exact h i rfl
    · exact ⟨r, hr, rfl⟩

/-- A request is served. -/
theorem served_request (hc : ∀ store, (s.foundry.cache store).Sound) :
    s.Served p d is (s.request p d is).2 := by
  have h := s.foundry.answer_proxyType hc s.alive p d is
  unfold request
  -- To take the answer apart is to take apart what is said of it, too.
  revert h
  rcases s.foundry.proxyType s.alive p d is with ⟨e | t, notes, f⟩
  · exact fun h => .refused h
  · exact fun h => .given (r := .type t) h

/-- A type from a caching platform has a constructor that takes a handler. -/
theorem constructor_of_answer (hc : ∀ store, (s.foundry.cache store).Sound) {store : Nat}
    {t : ProxyType} {f : Foundry}
    (h : s.foundry.Answer s.alive d is (.caching store) (.ok t) f) : t.constructor = some {} :=
  (h.synthesized hc).constructor_eq

/-- A handle is served, too. -/
theorem served_handleIn (hc : ∀ store, (s.foundry.cache store).Sound) :
    s.Served p d is (s.receive p (s.foundry.handleIn s.alive p d is)).2 := by
  have h := s.foundry.answer_proxyType hc s.alive p d is
  unfold Foundry.handleIn
  revert h
  rcases s.foundry.proxyType s.alive p d is with ⟨e | t, notes, f⟩
  · exact fun h => .refused h
  · intro h
    by_cases hcon : t.constructor.isSome = true
    · simp only [receive, Handle.of, dif_pos hcon]
      exact .given (r := .handle ⟨p, t, hcon⟩) h
    · simp only [receive, Handle.of, dif_neg hcon]
      -- Only a platform without a cache makes types that have no constructor for a handler.
      refine .dropped h ?_
      rintro store rfl
      rw [constructor_of_answer hc h] at hcon
      exact hcon rfl

/-- Building a handle asks for what its origin asks for, or does nothing. -/
theorem effect_build (hc : ∀ store, (s.foundry.cache store).Sound) (hp : s.knows p = true)
    (o : HandleOrigin) : s.Effect (.handle p o) (s.build p o).2 := by
  cases o with
  | first is =>
    cases is with
    | nil => exact .same
    | cons i is => exact .served hp (List.mem_singleton.mpr rfl) (served_handleIn hc)
  | within d is => exact .served hp (List.mem_singleton.mpr rfl) (served_handleIn hc)
  | cls c => exact .served hp (List.mem_singleton.mpr rfl) (served_handleIn hc)

/-- Instances are made of held types. -/
theorem effect_instantiate {h : Handle} (hh : s.Holds h.type) (handler : η) :
    s.Effect m (s.instantiate h handler).2 := by
  refine .adopt fun i hi => ?_
  rw [(h.attempt_instantiate handler s.nextProxy).eq_of_ok hi]
  exact hh

/-- That holds whether a platform makes them or they are made without any check. -/
theorem effect_attach {t : ProxyType} (ht : s.Holds t) (p : Option Platform) (handler : η) :
    s.Effect m (s.attach t p handler).2 := by
  cases p with
  | none =>
    refine .adopt fun i hi => ?_
    rw [← Except.ok.inj hi]
    exact ht
  | some p =>
    refine .adopt fun i hi => ?_
    rw [(p.attempt_instantiate t handler s.nextProxy).eq_of_ok hi]
    exact ht

/-- What any move makes of a process. -/
theorem effect_step (hc : ∀ store, (s.foundry.cache store).Sound) (m : Move η) :
    s.Effect m (s.step m) := by
  -- Whatever is at a place is in circulation.
  have hplace : ∀ {place : Nat} {r : Ref η}, s.refs[place]? = some r → s.Holds r.target :=
    fun h => ⟨_, List.mem_of_getElem? h, rfl⟩
  cases m with
  | platform =>
    exact .frame (fun _ => Foundry.cache_addCache _) rfl rfl fun r hr => ⟨r, hr, rfl⟩
  | request p d is =>
    simp only [step]
    split
    next hp => exact .served hp (List.mem_singleton.mpr rfl) (served_request hc)
    next => exact .same
  | handle p o =>
    simp only [step]
    split
    next hp => exact effect_build hc hp o
    next => exact .same
  | define d is table constructor =>
    exact .defined (r := .type ⟨s.foundry.next, d, is, table, constructor⟩) rfl
  | clone place =>
    simp only [step]
    split
    next => exact .same
    next r hr => exact .hold (hplace hr)
  | share place =>
    simp only [step]
    split
    next => exact .same
    next r hr =>
      have hheld := hplace hr
      exact .hold (r := .type r.target) hheld
  | drop place =>
    exact .frame (fun _ => rfl) rfl rfl fun r hr => ⟨r, List.mem_of_mem_eraseIdx hr, rfl⟩
  | instantiate place handler =>
    simp only [step]
    split
    next h hr => exact effect_instantiate (hplace hr) handler
    next => exact .same
  | attach place p handler =>
    simp only [step]
    split
    next => exact .same
    next r hr => exact effect_attach (hplace hr) p handler

end Process

end Interop
