import Interop.Domain
import Interop.Proofs.Numbering

namespace Interop

/-!
# Who sees whom

A domain sees what is defined in itself or in an ancestor. The walk up the parents compares numbers
only, so it tells domains apart as far as their numbers do.

* `Domain.Reaches`, `Domain.Sees` — the ancestors of a domain, by the parents alone; the domains that
  have the number of an ancestor. `Domain.canSee_eq_true_iff` says that the walk finds the latter.
* `Domain.Reaches.comparable` — parents are unique, so the ancestors of a domain form a chain.
* `Planting`, `Forest.run` — the calls that make domains, and any sequence of them.
* `Forest.Sound` — the invariant of these runs: every domain has a number of its own, and its parent is
  an older domain of the forest.
* `Forest.visibilityLaws_run` — hence visibility is an order in which what a domain sees is a chain.

The walk compares numbers, and asks for the parent where they differ. That it finds what has the
number of an ancestor holds of any domain, also of one that was put together by hand. For numbers to
tell domains apart one has to know where domains come from: in a forest that grows by the two calls
alone every domain has a number of its own, and its parent is in the forest and older. Then a number
on the way up is that of the ancestor itself, and the order laws are those of a tree.
-/

/-! ### Ancestors -/

namespace Domain

/-- `a` is the domain itself, or is reached from it by following parents. -/
inductive Reaches : Domain → Domain → Prop
  | refl (d : Domain) : Reaches d d
  | up {d p a : Domain} (hp : d.parent? = some p) (ha : Reaches p a) : Reaches d a

/-- `e` has the number of the domain itself or of one of its ancestors. -/
def Sees (d e : Domain) : Prop :=
  ∃ a, d.Reaches a ∧ a.same e = true

variable {d e x : Domain}

/-- An ancestor of an ancestor is one. -/
theorem Reaches.trans (hde : d.Reaches e) (hex : e.Reaches x) : d.Reaches x := by
  induction hde with
  | refl => exact hex
  | up hp _ ih => exact .up hp (ih hex)

/-- Of two ancestors of a domain one is an ancestor of the other. -/
theorem Reaches.comparable {a b : Domain} (ha : d.Reaches a) (hb : d.Reaches b) :
    a.Reaches b ∨ b.Reaches a := by
  induction ha with
  | refl => exact .inl hb
  | @up d p a hp ha ih =>
    cases hb with
    | refl => exact .inr (.up hp ha)
    | @up _ q _ hq hb =>
      -- Both walks go on from the one parent.
      obtain rfl := Option.some.inj (hp.symm.trans hq)
      exact ih hb

/-- The walk up the parents finds what has the number of an ancestor. -/
theorem canSee_eq_true_iff (d e : Domain) : d.canSee e = true ↔ d.Sees e := by
  -- On the chain of parents, as the walk goes.
  induction d with
  | root i n =>
    constructor
    · intro h
      exact ⟨_, .refl _, h⟩
    · rintro ⟨a, ha, hsame⟩
      cases ha with
      | refl => exact hsame
      | up hp => cases hp
  | child i n p ih =>
    rw [canSee, Bool.or_eq_true, ih]
    constructor
    · rintro (h | ⟨a, ha, hsame⟩)
      · exact ⟨_, .refl _, h⟩
      · exact ⟨a, .up rfl ha, hsame⟩
    · rintro ⟨a, ha, hsame⟩
      cases ha with
      | refl => exact .inl hsame
      | up hp ha =>
        obtain rfl := Option.some.inj hp
        exact .inr ⟨a, ha, hsame⟩

/-- A domain sees all that its ancestors see. -/
theorem Reaches.canSee (hde : d.Reaches e) (h : e.canSee x = true) : d.canSee x = true := by
  rw [canSee_eq_true_iff] at h ⊢
  obtain ⟨a, ha, hsame⟩ := h
  exact ⟨a, hde.trans ha, hsame⟩

end Domain

/-! ### How domains are made -/

/-- A call that makes a domain. A place is a position among the domains made before. -/
inductive Planting
  | root (name : String)
  | child (place : Nat) (name : String)

namespace Forest

/-- The forest after a call; without a domain at the place no domain is made. -/
def plant (f : Forest) : Planting → Forest
  | .root name => (f.grow name none).2
  | .child place name =>
    match f.domains[place]? with
    | none => f
    | some p => (f.grow name (some p)).2

/-- The forest after calls in order. -/
def run (ps : List Planting) : Forest :=
  ps.foldl plant {}

/-- Every domain has a number of its own, and stands below an older domain of the forest or below
    none. -/
structure Sound (f : Forest) : Prop where
  numbered : Numbered Domain.id f.next f.domains
  nodup : f.domains.Nodup
  parents : ∀ d ∈ f.domains, ∀ p, d.parent? = some p → p ∈ f.domains ∧ p.id < d.id

variable {f : Forest}

namespace Sound

/-- The empty forest is sound. -/
theorem start : Sound {} :=
  ⟨.nil, .nil, by simp⟩

/-- A new domain is younger than all others, its parent included. -/
theorem grow (hf : f.Sound) (name : String) {parent : Option Domain}
    (hparent : ∀ p, parent = some p → p ∈ f.domains) : (f.grow name parent).2.Sound := by
  have hid := f.id_grow name parent
  rw [grow_snd]
  refine ⟨hf.numbered.cons hid, List.nodup_cons.mpr ⟨fun hmem => ?_, hf.nodup⟩, ?_⟩
  · exact Nat.ne_of_lt (hf.numbered.below _ hmem) hid
  · intro d hd p hp
    rcases List.mem_cons.mp hd with rfl | hd
    · have hp : p ∈ f.domains := hparent p ((f.parent?_grow name parent).symm.trans hp)
      exact ⟨List.mem_cons_of_mem _ hp, hid ▸ hf.numbered.below p hp⟩
    · obtain ⟨hmem, hlt⟩ := hf.parents d hd p hp
      exact ⟨List.mem_cons_of_mem _ hmem, hlt⟩

/-- Every call keeps it sound. -/
theorem plant (hf : f.Sound) (p : Planting) : (f.plant p).Sound := by
  cases p with
  | root name => exact hf.grow name (by simp)
  | child place name =>
    cases hp : f.domains[place]? with
    | none =>
      rw [Forest.plant, hp]
      exact hf
    | some p =>
      rw [Forest.plant, hp]
      refine hf.grow name fun q hq => ?_
      obtain rfl := Option.some.inj hq
      exact List.mem_of_getElem? hp

/-- So do any calls in order. -/
theorem run (ps : List Planting) : (Forest.run ps).Sound :=
  List.foldlRecOn ps Forest.plant start fun _ hf p _ => hf.plant p

variable {a b : Domain}

/-- The ancestors of a domain of the forest are in the forest, and none is younger. -/
theorem mem_and_le_of_reaches (hf : f.Sound) (ha : a ∈ f.domains) (h : a.Reaches b) :
    b ∈ f.domains ∧ b.id ≤ a.id := by
  induction h with
  | refl => exact ⟨ha, Nat.le_refl _⟩
  | up hp _ ih =>
    obtain ⟨hmem, hlt⟩ := hf.parents _ ha _ hp
    obtain ⟨hb, hle⟩ := ih hmem
    exact ⟨hb, by omega⟩

/-- In the forest a number tells the domain, so a domain sees its ancestors and no others. -/
theorem canSee_iff_reaches (hf : f.Sound) (ha : a ∈ f.domains) (hb : b ∈ f.domains) :
    a.canSee b = true ↔ a.Reaches b := by
  rw [Domain.canSee_eq_true_iff]
  constructor
  · rintro ⟨x, hx, hsame⟩
    have hmem := (hf.mem_and_le_of_reaches ha hx).1
    have hid := Domain.same_eq_true_iff.mp hsame
    rwa [← hf.numbered.unique x hmem b hb hid]
  · intro h
    exact ⟨b, h, Domain.same_eq_true_iff.mpr rfl⟩

/-- Domains made by different calls are different, whatever their names. -/
theorem same_iff_place (hf : f.Sound) {m n : Nat} (ha : f.domains[m]? = some a)
    (hb : f.domains[n]? = some b) : a.same b = true ↔ m = n := by
  rw [Domain.same_eq_true_iff]
  constructor
  · intro hid
    have hab := hf.numbered.unique a (List.mem_of_getElem? ha) b (List.mem_of_getElem? hb) hid
    obtain ⟨hm, -⟩ := List.getElem?_eq_some_iff.mp ha
    exact (List.getElem?_inj hm hf.nodup).mp (by rw [ha, hb, hab])
  · rintro rfl
    rw [Option.some.inj (ha.symm.trans hb)]

end Sound

/-! ### The order -/

/-- How the domains of a forest see each other. -/
structure VisibilityLaws (f : Forest) : Prop where
  /-- A domain sees itself and what is reached from it by following parents, and nothing else. -/
  sees : ∀ a ∈ f.domains, ∀ b ∈ f.domains, a.canSee b = true ↔ a.Reaches b
  refl : ∀ a ∈ f.domains, a.canSee a = true
  trans : ∀ a ∈ f.domains, ∀ b ∈ f.domains, ∀ c ∈ f.domains,
    a.canSee b = true → b.canSee c = true → a.canSee c = true
  /-- Domains that see each other are the same. -/
  antisymm : ∀ a ∈ f.domains, ∀ b ∈ f.domains,
    a.canSee b = true → b.canSee a = true → a.same b = true
  /-- Two domains are the same iff one call made both, whatever their names. -/
  identity : ∀ (m n : Nat) (a b : Domain), f.domains[m]? = some a → f.domains[n]? = some b →
    (a.same b = true ↔ m = n)
  /-- Of two domains that a domain sees, one sees the other. -/
  comparable : ∀ a ∈ f.domains, ∀ b ∈ f.domains, ∀ c ∈ f.domains,
    c.canSee a = true → c.canSee b = true → a.canSee b = true ∨ b.canSee a = true

/-- The laws of visibility hold after any calls. -/
theorem visibilityLaws_run (ps : List Planting) : VisibilityLaws (run ps) := by
  have hf := Sound.run ps
  refine ⟨fun a ha b hb => hf.canSee_iff_reaches ha hb, fun a _ => a.canSee_self, ?_, ?_,
    fun m n a b => hf.same_iff_place, ?_⟩
  · intro a ha b hb c _ hab hbc
    exact ((hf.canSee_iff_reaches ha hb).mp hab).canSee hbc
  · intro a ha b hb hab hba
    have hab := (hf.canSee_iff_reaches ha hb).mp hab
    have hba := (hf.canSee_iff_reaches hb ha).mp hba
    -- Each is as old as the other at most, so their numbers are the same.
    have hle := (hf.mem_and_le_of_reaches ha hab).2
    have hge := (hf.mem_and_le_of_reaches hb hba).2
    exact Domain.same_eq_true_iff.mpr (by omega)
  · intro a ha b hb c hc hca hcb
    rw [hf.canSee_iff_reaches ha hb, hf.canSee_iff_reaches hb ha]
    exact ((hf.canSee_iff_reaches hc ha).mp hca).comparable ((hf.canSee_iff_reaches hc hb).mp hcb)

end Forest

end Interop
