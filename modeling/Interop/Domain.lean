namespace Interop

/-!
# Domains

* `Domain` — the origin of host types; domains form chains through their parents.
* `Domain.canSee` — whether the types of one domain are visible from another.
* `Forest` — the domains made so far, each with a number of its own.

A domain holds its parent, and so the whole way to its root; to see another domain is to meet it on
that way. Numbers identify domains and names do not. That no number is given twice is not a matter of
a single domain, but of the forest from which all of them come.
-/

/-- A domain with the chain of its ancestors. Its number is its identity. -/
inductive Domain
  | root (id : Nat) (name : String)
  | child (id : Nat) (name : String) (parent : Domain)
deriving DecidableEq, Inhabited

namespace Domain

/-- The number of a domain. -/
def id : Domain → Nat
  | root i _ => i
  | child i _ _ => i

/-- The name of a domain; several domains may share it. -/
def name : Domain → String
  | root _ n => n
  | child _ n _ => n

/-- The domain to which look-ups are delegated first; a root has none. -/
def parent? : Domain → Option Domain
  | root .. => none
  | child _ _ p => some p

/-- The domain and its ancestors, nearest first. -/
def chain : Domain → List Domain
  | d@(root ..) => [d]
  | d@(child _ _ p) => d :: p.chain

/-- Whether the types defined in `other` are visible from the domain: `other` is the domain itself
    or one of its ancestors. -/
def canSee : Domain → Domain → Bool
  | root i _, other => i == other.id
  | child i _ p, other => i == other.id || p.canSee other

/-- Two domains are the same iff they have the same number. -/
def same (d e : Domain) : Bool :=
  d.id == e.id

/-- Names have no part in it: domains of one name are different domains. -/
theorem same_eq_true_iff {d e : Domain} : d.same e = true ↔ d.id = e.id := by
  simp [same]

/-- A domain sees itself. -/
@[simp] theorem canSee_self (d : Domain) : d.canSee d = true := by
  cases d <;> simp [canSee, id]

/-- To see a domain is to meet its number on the way to the root. -/
theorem canSee_eq_any (d e : Domain) : d.canSee e = d.chain.any (·.id == e.id) := by
  induction d with
  | root i n => simp [canSee, chain, id]
  | child i n p ih => simp [canSee, chain, id, ih]

end Domain

/-- The domains made so far, newest first, and the number of the next one. -/
structure Forest where
  /-- The numbers of a running host are words of 64 bits that start over after the last one. They are
      taken one at a time, so the model is exact as long as fewer than 2 ^ 64 domains were made. -/
  next : Nat := 1
  domains : List Domain := []

namespace Forest

/-- Make a domain under `parent`, or a root. -/
def grow (f : Forest) (name : String) (parent : Option Domain) : Domain × Forest :=
  let d := match parent with
    | none => Domain.root f.next name
    | some p => Domain.child f.next name p
  (d, { next := f.next + 1, domains := d :: f.domains })

variable (f : Forest) (name : String) (parent : Option Domain)

/-- The new domain takes the next number. -/
@[simp] theorem id_grow : (f.grow name parent).1.id = f.next := by
  cases parent <;> rfl

/-- It stands where it was put. -/
@[simp] theorem parent?_grow : (f.grow name parent).1.parent? = parent := by
  cases parent <;> rfl

/-- The new domain is the newest, and the counter goes up by one. -/
theorem grow_snd :
    (f.grow name parent).2 = ⟨f.next + 1, (f.grow name parent).1 :: f.domains⟩ :=
  rfl

end Forest

end Interop
