import Interop.Proxy.Bridge

namespace Interop

/-!
# Processes

A process is a host at work with any number of platforms and bridges: it asks for proxy types, builds
handles, makes instances, and hands references on or lets go of them in any order.

* `Ref` — what keeps a proxy type alive: the type itself, a handle on it, or an instance of it.
* `Process` — the foundry, the references in circulation, and what the caching platforms have
  answered so far.
* `Process.request`, `Process.build`, `Process.instantiate` — the operations with their answers.
* `Move`, `Process.step`, `Process.run` — any of them, and any sequence of them from the start.

The host decides everything that the platforms cannot know: who keeps which type, for how long, and in
which order requests come. So a statement about a cache is a statement about all processes in which it
is used, and holds after every sequence of moves. A move that does not apply, such as one to a place
that holds no reference, changes nothing; the sequences are then all lists of moves.
-/

/-- A strong reference to a proxy type: the type itself, a handle on it, or an instance of it, whose
    handler is of type `η`. -/
inductive Ref (η : Type)
  | type (t : ProxyType)
  | handle (h : Handle)
  | proxy (p : Proxy η)

namespace Ref

variable {η : Type}

/-- The proxy type that the reference keeps alive. -/
def target : Ref η → ProxyType
  | type t => t
  | handle h => h.type
  | proxy p => p.type

end Ref

/-- Where the interfaces and the domain of a new handle come from. -/
inductive HandleOrigin
  /-- The interfaces, and the domain of the first. -/
  | first (is : List Interface)
  | within (d : Domain) (is : List Interface)
  /-- The interfaces and the domain of a class. -/
  | cls (c : HostClass)

/-- A handle with its type made from `o`. -/
def Foundry.handleFrom (f : Foundry) (alive : Nat → Bool) (p : Platform) :
    HandleOrigin → Except BridgeError Handle × List Note × Foundry
  | .first is => f.handle alive p is
  | .within d is => f.handleIn alive p d is
  | .cls c => f.subclassHandle alive p c

/-- The domain and the interfaces for which a handle from `o` asks, if it asks at all. -/
def HandleOrigin.asks : HandleOrigin → List (Domain × List Interface)
  | .first [] => []
  | .first (i :: is) => [(i.domain, i :: is)]
  | .within d is => [(d, is)]
  | .cls c => [(c.domain, c.interfaces)]

/-- A host at work. -/
structure Process (η : Type) where
  /-- At the start there is one caching platform, the one shared process-wide. -/
  foundry : Foundry := { caches := [{}] }
  /-- The number of the next instance. Like that of the next type it is exact below 2 ^ 64, where the
      words of a running host start over. -/
  nextProxy : Nat := 1
  /-- The references in circulation. -/
  refs : List (Ref η) := []
  /-- The types that caching platforms have given out so far, each with the platform's number. -/
  returned : List (Nat × ProxyType) := []

/-- What a host can do. A place is a position among the references in circulation. -/
inductive Move (η : Type)
  /-- Set up one more caching platform. -/
  | platform
  | request (p : Platform) (d : Domain) (is : List Interface)
  | handle (p : Platform) (o : HandleOrigin)
  /-- Make a type with an arbitrary table and constructor. -/
  | define (d : Domain) (is : List Interface) (table : DispatchTable)
      (constructor : Option Constructor)
  | clone (place : Nat)
  /-- Take the type of a handle or an instance. -/
  | share (place : Nat)
  | drop (place : Nat)
  /-- Make an instance through the handle at a place. -/
  | instantiate (place : Nat) (handler : η)
  /-- Make an instance of the type at a place on a platform, or without any check. -/
  | attach (place : Nat) (p : Option Platform) (handler : η)

/-- The domain and the interfaces for which a move asks, if it asks at all. -/
def Move.asks {η : Type} : Move η → List (Domain × List Interface)
  | .request _ d is => [(d, is)]
  | .handle _ o => o.asks
  | _ => []

namespace Process

variable {η : Type} (s : Process η)

/-- Whether some reference keeps the type of that number alive. -/
def alive (n : Nat) : Bool :=
  s.refs.any (·.target.id == n)

/-- Some reference keeps `t` alive. -/
def Holds (t : ProxyType) : Prop :=
  ∃ r ∈ s.refs, r.target = t

/-- Whether the platform was set up. -/
def knows : Platform → Bool
  | .caching store => store < s.foundry.caches.length
  | .uncached | .foreign _ | .defective _ => true

/-- Put a reference into circulation. -/
def hold (r : Ref η) : Process η :=
  { s with refs := r :: s.refs }

/-- Put a reference into circulation that a platform gave out. -/
def accept (p : Platform) (r : Ref η) : Process η :=
  match p with
  | .caching store => { s.hold r with returned := (store, r.target) :: s.returned }
  | .uncached | .foreign _ | .defective _ => s.hold r

/-- Ask a platform for the proxy type of `is` in `d`. -/
def request (p : Platform) (d : Domain) (is : List Interface) :
    Except ConstructionError ProxyType × Process η :=
  let (r, _, foundry) := s.foundry.proxyType s.alive p d is
  let s' := { s with foundry }
  match r with
  | .error e => (.error e, s')
  | .ok t => (.ok t, s'.accept p (.type t))

/-- Put a handle into circulation, if it was built. -/
def receive (p : Platform) (built : Except BridgeError Handle × List Note × Foundry) :
    Except BridgeError Handle × Process η :=
  let s' := { s with foundry := built.2.2 }
  match built.1 with
  | .error e => (.error e, s')
  | .ok h => (.ok h, s'.accept p (.handle h))

/-- Build a handle. -/
def build (p : Platform) (o : HandleOrigin) : Except BridgeError Handle × Process η :=
  s.receive p (s.foundry.handleFrom s.alive p o)

/-- Put an instance into circulation, if it was made. -/
def adopt {ε : Type} (made : Except ε (Proxy η) × Nat) : Except ε (Proxy η) × Process η :=
  let s' := { s with nextProxy := made.2 }
  match made.1 with
  | .error e => (.error e, s')
  | .ok p => (.ok p, s'.hold (.proxy p))

/-- Make an instance through a handle. -/
def instantiate (h : Handle) (handler : η) : Except BridgeError (Proxy η) × Process η :=
  s.adopt (h.instantiate handler s.nextProxy)

/-- Make an instance of a type on a platform, or without any check. -/
def attach (t : ProxyType) (p : Option Platform) (handler : η) :
    Except InstantiationError (Proxy η) × Process η :=
  match p with
  | some p => s.adopt (p.instantiate t handler s.nextProxy)
  | none => s.adopt (.ok ⟨s.nextProxy, t, handler⟩, s.nextProxy + 1)

/-- The process after a move. A move to a place without a fitting reference, or on a platform that
    was never set up, does nothing. -/
def step : Move η → Process η
  | .platform => { s with foundry := s.foundry.addCache.2 }
  | .request p d is => if s.knows p then (s.request p d is).2 else s
  | .handle p o => if s.knows p then (s.build p o).2 else s
  | .define d is table constructor =>
    let (t, foundry) := s.foundry.define d is table constructor
    { s with foundry }.hold (.type t)
  | .clone place =>
    match s.refs[place]? with
    | none => s
    | some r => s.hold r
  | .share place =>
    match s.refs[place]? with
    | none => s
    | some r => s.hold (.type r.target)
  | .drop place => { s with refs := s.refs.eraseIdx place }
  | .instantiate place handler =>
    match s.refs[place]? with
    | some (.handle h) => (s.instantiate h handler).2
    | _ => s
  | .attach place p handler =>
    match s.refs[place]? with
    | none => s
    | some r => (s.attach r.target p handler).2

/-- The process after moves in order. -/
def steps (ms : List (Move η)) : Process η :=
  ms.foldl step s

/-- The process after moves in order from the start. -/
def run (ms : List (Move η)) : Process η :=
  steps {} ms

/-! ### Frames -/

/-- To put a reference into circulation does not count as an answer of a platform. -/
@[simp] theorem hold_returned (r : Ref η) : (s.hold r).returned = s.returned := rfl
/-- It is the newest of the references. -/
@[simp] theorem hold_refs (r : Ref η) : (s.hold r).refs = r :: s.refs := rfl

/-- To accept an answer leaves the foundry alone. -/
@[simp] theorem accept_foundry (p : Platform) (r : Ref η) : (s.accept p r).foundry = s.foundry := by
  cases p <;> rfl

/-- The accepted reference is the newest one, whatever platform gave it out. -/
@[simp] theorem accept_refs (p : Platform) (r : Ref η) : (s.accept p r).refs = r :: s.refs := by
  cases p <;> rfl

/-- No instance is made of it. -/
@[simp] theorem accept_nextProxy (p : Platform) (r : Ref η) :
    (s.accept p r).nextProxy = s.nextProxy := by
  cases p <;> rfl

/-- Only what a caching platform gave out is noted, under the number of the platform. -/
theorem mem_returned_accept {p : Platform} {r : Ref η} {store : Nat} {t : ProxyType} :
    (store, t) ∈ (s.accept p r).returned ↔
      p = .caching store ∧ t = r.target ∨ (store, t) ∈ s.returned := by
  cases p <;> simp [accept, eq_comm]

/-- Alive is what some reference keeps alive. -/
theorem alive_eq_true_iff {n : Nat} : s.alive n = true ↔ ∃ r ∈ s.refs, r.target.id = n := by
  simp [alive]

/-- A held type is alive. -/
theorem alive_of_holds {t : ProxyType} (h : s.Holds t) : s.alive t.id = true := by
  obtain ⟨r, hr, rfl⟩ := h
  exact s.alive_eq_true_iff.mpr ⟨r, hr, rfl⟩

end Process

end Interop
