import Interop.Proxy.Cache

namespace Interop

/-!
# Platforms

A platform makes proxy types and instances. All platforms draw type numbers from one counter.

* `Platform` — caching, uncached, or a foreign one that neither validates nor caches.
* `Foundry` — the counter and the caches; `Foundry.proxyType` answers a request on a platform.
* `Platform.check` — whether an instance of a type may be made.

Only the validating platforms look at an interface list before they build its table. The foreign ones
stand for what else may be behind the interface of a platform: types without a constructor, types
whose constructor is closed, and attempts that fail for reasons of their own.
-/

/-- How a foreign platform fails to make an instance. -/
inductive Defect
  | raises (error : ScriptError)
  | illegalAccess
  | notInstantiable
deriving DecidableEq

/-- Where proxy types and instances come from. -/
inductive Platform
  /-- Validates, and keeps its types in the cache of that number. -/
  | caching (store : Nat)
  /-- Validates, and makes a new type on every request. -/
  | uncached
  /-- Only builds the table; its types have the given constructor. -/
  | foreign (constructor : Option Constructor)
  /-- Only builds the table; making an instance always fails. -/
  | defective (defect : Defect)
deriving DecidableEq

/-- Whether an instance of `t` may be made on the platform. -/
def Platform.check (t : ProxyType) : Platform → Except InstantiationError Unit
  | defective (.raises e) => .error (.raised e)
  | defective .illegalAccess => .error (.illegalAccess t.name)
  | defective .notInstantiable => .error (.notInstantiable t.name)
  | caching _ | uncached | foreign _ => t.ready

/-- The counter of type numbers and the caches, by number. -/
structure Foundry where
  /-- The numbers of a running host are words of 64 bits that start over after the last one. They are
      taken one at a time, and only by a type that is made, so the model is exact for the first 2 ^ 64
      types. -/
  next : Nat := 0
  caches : List TypeCache := []

namespace Foundry

variable (f : Foundry)

/-- The cache of that number; one never made is empty. -/
def cache (store : Nat) : TypeCache :=
  f.caches.getD store {}

/-- Make room for one more cache and give its number. -/
def addCache : Nat × Foundry :=
  (f.caches.length, { f with caches := f.caches ++ [{}] })

/-- Give the next number to a type with an arbitrary table and constructor. -/
def define (d : Domain) (is : List Interface) (table : DispatchTable)
    (constructor : Option Constructor) : ProxyType × Foundry :=
  (⟨f.next, d, is, table, constructor⟩, { f with next := f.next + 1 })

/-- Build the table of `is` and give it a type with the given constructor. -/
def defineUnchecked (d : Domain) (is : List Interface) (constructor : Option Constructor) :
    Except ConstructionError ProxyType × Foundry :=
  match DispatchTable.build is with
  | .error e => (.error e, f)
  | .ok table => let (t, f') := f.define d is table constructor; (.ok t, f')

/-- Make a new type of a valid list, and report it. -/
def synthesize (d : Domain) (is : List Interface) :
    Except ConstructionError ProxyType × List Note × Foundry :=
  match Interop.synthesize f.next d is with
  | .error e => (.error e, [], f)
  | .ok t => (.ok t, [.synthesized t], { f with next := f.next + 1 })

/-- Drop the dead entries of a cache. -/
def pruneStore (alive : Nat → Bool) (store : Nat) : Foundry :=
  { f with caches := f.caches.set store ((f.cache store).prune alive) }

/-- Settle on one type for a key of a cache. -/
def adopt (alive : Nat → Bool) (store : Nat) (k : TypeKey) (built : ProxyType) :
    ProxyType × Foundry :=
  let (winner, c) := (f.cache store).adopt alive k built
  (winner, { f with caches := f.caches.set store c })

/-- The proxy type of `is` in `d` on platform `p`. -/
def proxyType (alive : Nat → Bool) (p : Platform) (d : Domain) (is : List Interface) :
    Except ConstructionError ProxyType × List Note × Foundry :=
  match p with
  | .caching store =>
    let r := (f.cache store).request alive f.next d is
    (r.result, r.notes, { next := r.next, caches := f.caches.set store r.cache })
  | .uncached => f.synthesize d is
  | .foreign constructor =>
    let (r, f') := f.defineUnchecked d is constructor
    (r, [], f')
  | .defective _ =>
    let (r, f') := f.defineUnchecked d is (some {})
    (r, [], f')

end Foundry

end Interop
