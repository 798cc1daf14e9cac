import Interop.Lookup
import Interop.Proxy.Synthesis

namespace Interop

/-!
# The type cache

A cache maps a domain and an ordered list of interface identities to a proxy type, weakly: an entry
counts only while its type is alive, that is, held by somebody. Who holds what is the caller's
knowledge, given as a predicate on type numbers.

* `TypeCache.live?`, `TypeCache.prune`, `TypeCache.adopt` — the three atomic steps on the map: look
  up and hold, drop the dead entries, and settle on one type for a key.
* `TypeCache.request` — the steps in order: a hit, or a miss that prunes, synthesizes and adopts.
* `TypeCache.live?_adopt` — settling leaves the winner as the live type of its key.
* `Note` — what a request reports about itself.

The steps are kept apart because other callers may act between them: what was dead or missing at the
first step may be there at the last. Where a caller has the cache to itself, `TypeCache.request` is
what they come to.
-/

/-- The key of a cached type: the defining domain and the interface identities in order. -/
structure TypeKey where
  domain : Nat
  interfaces : List Nat
deriving DecidableEq

/-- The key of a request for `is` in `d`. -/
def TypeKey.of (d : Domain) (is : List Interface) : TypeKey :=
  ⟨d.id, is.map (·.serial)⟩

/-- What a platform reports while it answers a request. -/
inductive Note
  | hit (proxy : String)
  | pruned (count : Nat)
  | synthesized (type : ProxyType)

/-- The entries of a cache. -/
structure TypeCache where
  entries : List (TypeKey × ProxyType) := []

namespace TypeCache

variable (alive : Nat → Bool) (c : TypeCache)

/-- The entry under `k`, dead or alive. -/
def find? (k : TypeKey) : Option ProxyType :=
  c.entries.lookup k

/-- The live type under `k`. -/
def live? (k : TypeKey) : Option ProxyType :=
  (c.find? k).filter (alive ·.id)

/-- Drop the dead entries. -/
def prune : TypeCache :=
  ⟨c.entries.filter (alive ·.2.id)⟩

/-- Put `t` under `k`, in place of what was there. -/
def insert (k : TypeKey) (t : ProxyType) : TypeCache :=
  ⟨(k, t) :: c.entries.filter (·.1 != k)⟩

/-- Settle on one type for `k`: a live occupant wins, a dead one or none gives way to `built`. -/
def adopt (k : TypeKey) (built : ProxyType) : ProxyType × TypeCache :=
  match c.live? alive k with
  | some winner => (winner, c)
  | none => (built, c.insert k built)

/-- A key finds what was put under it. -/
@[simp] theorem find?_insert_self (k : TypeKey) (t : ProxyType) : (c.insert k t).find? k = some t := by
  simp [find?, insert]

/-- Another key finds what it found before. -/
theorem find?_insert_of_ne {k k' : TypeKey} (h : k' ≠ k) (t : ProxyType) :
    (c.insert k t).find? k' = c.find? k' := by
  simp [find?, insert, List.lookup_cons, beq_false_of_ne h, lookup_filter_of_ne h]

/-- A live type is an entry that somebody keeps alive. -/
theorem live?_eq_some_iff {k : TypeKey} {t : ProxyType} :
    c.live? alive k = some t ↔ c.find? k = some t ∧ alive t.id = true := by
  simp [live?, Option.filter_eq_some_iff]

/-- What a key settles on is its live type from then on, provided that the new type is held. -/
theorem live?_adopt {k : TypeKey} {built : ProxyType} (h : alive built.id = true) :
    (c.adopt alive k built).2.live? alive k = some (c.adopt alive k built).1 := by
  unfold adopt
  split
  next winner hw => exact hw
  next => exact (live?_eq_some_iff ..).mpr ⟨find?_insert_self .., h⟩

/-- The number of live entries. -/
def liveCount : Nat :=
  c.entries.countP (alive ·.2.id)

/-- What a prune has to report: nothing where nothing was dropped. -/
def pruneNotes : List Note :=
  let n := c.entries.length - (c.prune alive).entries.length
  if n = 0 then [] else [.pruned n]

/-- The answer to a request, with what it leaves behind. -/
structure Response where
  result : Except ConstructionError ProxyType
  /-- The number of the next proxy type. -/
  next : Nat
  cache : TypeCache
  notes : List Note

/-- The proxy type of `is` in `d`: the live type under their key, or a new one. -/
def request (next : Nat) (d : Domain) (is : List Interface) : Response :=
  let k := TypeKey.of d is
  match c.live? alive k with
  | some t => ⟨.ok t, next, c, [.hit t.name]⟩
  | none =>
    -- Dead entries go before the list is looked at, so also where it is refused.
    let pruned := c.prune alive
    let notes := c.pruneNotes alive
    match synthesize next d is with
    | .error e => ⟨.error e, next, pruned, notes⟩
    | .ok t =>
      let (winner, settled) := pruned.adopt alive k t
      ⟨.ok winner, next + 1, settled, notes ++ [.synthesized t]⟩

end TypeCache

end Interop
