import Mathlib.Data.List.MinMax
import Interop.Proofs.Agreement
import Interop.Proxy.Bridge

namespace Interop

/-!
# Which orderings of a list get a handle

Where no domain is given, the type of a handle is made in the domain of the first interface. So the order
of a list, which does not matter within one domain, decides in which domain it is to be implemented.

* `Domain.depth` — how far a domain is below its root. `Domain.Reaches.eq_or_depth_lt` says that ancestors
  are not as deep.
* `Compatible`, `Chained` — what a list needs in whichever domain; lists whose domains stand below each
  other.
* `Foundry.handle_uncached_isOk_iff` — a platform without a cache gives a compatible list a handle iff its
  first interface sees the others.
* `Forest.Sound.sees_all_iff_deepest`, `Forest.Sound.chained_iff` — in a chain the interfaces that see all
  others are the deepest; only in a chain there is such an interface.
* `Foundry.orderingLaws` — hence which orderings of a list get a handle, and when there is one.

Depth turns a question about two domains into one about numbers. What an interface sees is on the way
from its domain to the root, where every step is one up; so of the interfaces that stand below each
other the one that sees all others is the deepest, and the other way round. A list may have several
such interfaces. They then have one domain, as domains on one way are told apart by their depth.
-/

/-! ### Depth -/

namespace Domain

/-- The number of proper ancestors of a domain. -/
def depth : Domain → Nat
  | root .. => 0
  | child _ _ p => p.depth + 1

/-- A domain is one deeper than its parent. -/
theorem depth_of_parent? {d p : Domain} (h : d.parent? = some p) : d.depth = p.depth + 1 := by
  cases d with
  | root => cases h
  | child i n q =>
    have hq : q = p := Option.some.inj h
    rw [depth, hq]

/-- An ancestor of a domain is the domain itself or less deep. -/
theorem Reaches.eq_or_depth_lt {d e : Domain} (h : d.Reaches e) : d = e ∨ e.depth < d.depth := by
  induction h with
  | refl => exact .inl rfl
  | @up d p a hp _ ih =>
    right
    have hd : d.depth = p.depth + 1 := depth_of_parent? hp
    rcases ih with rfl | hlt
    · omega
    · omega

end Domain

/-! ### Compatible lists

What keeps a list from being implemented is a matter of the list alone, or of the domain. The
conditions on the list alone do not depend on its order, so all orderings of a compatible list are
compatible, and visibility decides.
-/

/-- What a list of interfaces needs in whichever domain it is implemented. -/
structure Compatible (is : List Interface) : Prop where
  size : Sized is
  kinds : ∀ i ∈ is, i.kind = .interface
  distinct : (is.map (·.serial)).Nodup
  agree : DispatchTable.Agree (DispatchTable.declarations is)

namespace Compatible

variable {is js : List Interface}

/-- It does not matter in which order the list is. -/
theorem perm (h : Compatible is) (hp : is.Perm js) : Compatible js where
  size := ⟨fun hnil => h.size.nonempty (hnil ▸ hp).eq_nil, hp.length_eq ▸ h.size.bounded⟩
  kinds := fun i hi => h.kinds i (hp.mem_iff.mpr hi)
  distinct := (hp.map _).nodup h.distinct
  agree := h.agree.mono (DispatchTable.declarations_subset hp.symm.subset)

/-- A compatible list may be implemented in the domains that see all of it. -/
theorem acceptable_iff (h : Compatible is) (d : Domain) :
    Acceptable d is ↔ ∀ i ∈ is, d.canSee i.domain = true := by
  constructor
  · exact fun ha => ha.visible
  · intro hsees
    have hkinds : ∀ i ∈ is, i.isInterface = true := by
      intro i hi
      simp [Interface.isInterface, h.kinds i hi]
    exact ⟨h.size.nonempty, h.size.bounded, hkinds, hsees, h.distinct⟩

end Compatible

namespace Foundry

variable (f : Foundry) (alive : Nat → Bool)

/-- A handle can be built iff its type can be made, as all types of a platform without a cache have a
    constructor for a handler. -/
theorem handleIn_uncached_isOk_iff (d : Domain) (is : List Interface) :
    (∃ h, (f.handleIn alive .uncached d is).1 = .ok h) ↔
      ∃ t, (f.proxyType alive .uncached d is).1 = .ok t := by
  have hconstructor : ∀ t, (f.proxyType alive .uncached d is).1 = .ok t → t.constructor = some {} := by
    intro t ht
    rw [(proxyType_uncached_eq_ok_iff.mp ht).2.2]
  unfold handleIn
  revert hconstructor
  rcases f.proxyType alive .uncached d is with ⟨e | t, notes, f'⟩
  · intro _
    simp
  · intro hconstructor
    simp [Handle.of, hconstructor t rfl]

/-- A platform without a cache gives a handle for the list, in the domain of its first interface. -/
def Handles (is : List Interface) : Prop :=
  ∃ h, (f.handle alive .uncached is).1 = .ok h

/-- A compatible list gets a handle iff its first interface sees the others. -/
theorem handle_uncached_isOk_iff {i : Interface} {rest : List Interface}
    (hc : Compatible (i :: rest)) :
    f.Handles alive (i :: rest) ↔ ∀ j ∈ rest, i.domain.canSee j.domain = true := by
  have hhandle : f.Handles alive (i :: rest) ↔ Acceptable i.domain (i :: rest) := by
    show (∃ h, (f.handleIn alive .uncached i.domain (i :: rest)).1 = .ok h) ↔ _
    rw [handleIn_uncached_isOk_iff, proxyType_uncached_isOk_iff, and_iff_left hc.agree]
  rw [hhandle, hc.acceptable_iff, List.forall_mem_cons, and_iff_right i.domain.canSee_self]

end Foundry

/-! ### Chains

A chain is a list whose domains stand below each other, in whatever order the list is.
-/

/-- Of the domains of any two interfaces one sees the other. -/
def Chained (is : List Interface) : Prop :=
  ∀ i ∈ is, ∀ j ∈ is, i.domain.canSee j.domain = true ∨ j.domain.canSee i.domain = true

/-- No interface of the list has a deeper domain than `i`. -/
def Deepest (is : List Interface) (i : Interface) : Prop :=
  ∀ j ∈ is, j.domain.depth ≤ i.domain.depth

/-- A list with members has a deepest one. -/
theorem exists_deepest {is : List Interface} (h : is ≠ []) : ∃ i ∈ is, Deepest is i := by
  -- Such a member is one at which depth is greatest.
  cases hmax : is.argmax (·.domain.depth) with
  | none => exact absurd (List.argmax_eq_none.mp hmax) h
  | some i =>
    refine ⟨i, List.argmax_mem hmax, fun j hj => ?_⟩
    have hle := List.le_of_mem_argmax hj hmax
    exact hle

namespace Forest.Sound

variable {f : Forest} {is : List Interface}

/-- What one domain sees is a chain. -/
theorem chained_of_sees (hf : f.Sound) (hd : ∀ i ∈ is, i.domain ∈ f.domains) {i : Interface}
    (hi : i ∈ is) (hsees : ∀ j ∈ is, i.domain.canSee j.domain = true) : Chained is := by
  intro j hj k hk
  have hij : i.domain.Reaches j.domain :=
    (hf.canSee_iff_reaches (hd i hi) (hd j hj)).mp (hsees j hj)
  have hik : i.domain.Reaches k.domain :=
    (hf.canSee_iff_reaches (hd i hi) (hd k hk)).mp (hsees k hk)
  rw [hf.canSee_iff_reaches (hd j hj) (hd k hk), hf.canSee_iff_reaches (hd k hk) (hd j hj)]
  exact hij.comparable hik

/-- In a chain an interface sees all others iff none is deeper. -/
theorem sees_all_iff_deepest (hf : f.Sound) (hd : ∀ i ∈ is, i.domain ∈ f.domains)
    (hchain : Chained is) {i : Interface} (hi : i ∈ is) :
    (∀ j ∈ is, i.domain.canSee j.domain = true) ↔ Deepest is i := by
  constructor
  · intro hsees j hj
    have hreaches := (hf.canSee_iff_reaches (hd i hi) (hd j hj)).mp (hsees j hj)
    rcases hreaches.eq_or_depth_lt with heq | hlt
    · rw [heq]
    · omega
  · intro hdeep j hj
    rcases hchain i hi j hj with hij | hji
    · exact hij
    · -- What sees a deepest domain is no deeper than it, so it is that domain.
      have hreaches := (hf.canSee_iff_reaches (hd j hj) (hd i hi)).mp hji
      rcases hreaches.eq_or_depth_lt with heq | hlt
      · rw [heq]
        exact i.domain.canSee_self
      · have hle := hdeep j hj
        omega

/-- A list is a chain iff some interface of it sees all others. -/
theorem chained_iff (hf : f.Sound) (hd : ∀ i ∈ is, i.domain ∈ f.domains) (hne : is ≠ []) :
    Chained is ↔ ∃ i ∈ is, ∀ j ∈ is, i.domain.canSee j.domain = true := by
  constructor
  · intro hchain
    obtain ⟨i, hi, hdeep⟩ := exists_deepest hne
    exact ⟨i, hi, (hf.sees_all_iff_deepest hd hchain hi).mpr hdeep⟩
  · rintro ⟨i, hi, hsees⟩
    exact hf.chained_of_sees hd hi hsees

end Forest.Sound

/-! ### Orderings -/

/-- Which orderings of the list `is` get a handle. -/
structure OrderingLaws (f : Foundry) (alive : Nat → Bool) (is : List Interface) : Prop where
  /-- The list gets a handle iff the domain of its first interface sees those of the others. -/
  first : ∀ i rest, is = i :: rest →
    (f.Handles alive is ↔ ∀ j ∈ rest, i.domain.canSee j.domain = true)
  /-- Some ordering gets a handle iff of any two domains one sees the other. -/
  chained : (∃ js, is.Perm js ∧ f.Handles alive js) ↔ Chained is
  /-- This is so iff all domains are met on the way from one of them to its root. -/
  line : Chained is ↔ ∃ i ∈ is, ∀ j ∈ is, i.domain.Reaches j.domain
  /-- Where that is so, the orderings that get one are those with a deepest interface in front. -/
  deepest : Chained is → ∀ i rest, is.Perm (i :: rest) →
    (f.Handles alive (i :: rest) ↔ Deepest is i)

/-- The laws hold for all lists which nothing but visibility may keep from a handle, in any forest. -/
theorem Foundry.orderingLaws (f : Foundry) (alive : Nat → Bool) (ps : List Planting)
    {is : List Interface} (hc : Compatible is)
    (hd : ∀ i ∈ is, i.domain ∈ (Forest.run ps).domains) : OrderingLaws f alive is := by
  have hf := Forest.Sound.run ps
  -- An ordering gets a handle iff its first interface sees all members of the list.
  have hfront : ∀ i rest, is.Perm (i :: rest) →
      (f.Handles alive (i :: rest) ↔ ∀ j ∈ is, i.domain.canSee j.domain = true) := by
    intro i rest hp
    rw [f.handle_uncached_isOk_iff alive (hc.perm hp)]
    simp [hp.mem_iff]
  refine ⟨?_, ?_, ?_, ?_⟩
  · rintro i rest rfl
    exact f.handle_uncached_isOk_iff alive hc
  · rw [hf.chained_iff hd hc.size.nonempty]
    constructor
    · rintro ⟨js, hp, hh⟩
      cases js with
      | nil => exact absurd hp.eq_nil hc.size.nonempty
      | cons i rest => exact ⟨i, hp.mem_iff.mpr List.mem_cons_self, (hfront i rest hp).mp hh⟩
    · rintro ⟨i, hi, hsees⟩
      -- The interface that sees all others can be put in front.
      obtain ⟨before, after, his⟩ := List.append_of_mem hi
      have hp : is.Perm (i :: (before ++ after)) := his ▸ List.perm_middle
      exact ⟨_, hp, (hfront i _ hp).mpr hsees⟩
  · rw [hf.chained_iff hd hc.size.nonempty]
    constructor
    · rintro ⟨i, hi, hsees⟩
      exact ⟨i, hi, fun j hj => (hf.canSee_iff_reaches (hd i hi) (hd j hj)).mp (hsees j hj)⟩
    · rintro ⟨i, hi, hreaches⟩
      exact ⟨i, hi, fun j hj => (hf.canSee_iff_reaches (hd i hi) (hd j hj)).mpr (hreaches j hj)⟩
  · intro hchain i rest hp
    have hi : i ∈ is := hp.mem_iff.mpr List.mem_cons_self
    rw [hfront i rest hp, hf.sees_all_iff_deepest hd hchain hi]

namespace Closers

/-- The descriptor of the plugin has to come before that of the host. -/
theorem orderingLaws_file_stream :
    let f : Foundry := {}
    let alive : Nat → Bool := fun _ => false
    let ps : List Planting := [.root "host", .child 0 "plugin"]
    Compatible [file, stream] ∧ (∀ i ∈ [file, stream], i.domain ∈ (Forest.run ps).domains) ∧
      OrderingLaws f alive [file, stream] ∧ ¬ f.Handles alive [file, stream] ∧
        f.Handles alive [stream, file] := by
  intro f alive ps
  have hbuild : DispatchTable.build [file, stream] = .ok both.table :=
    (Foundry.proxyType_uncached_eq_ok_iff.mp accepted_both).2.1
  have hc : Compatible [file, stream] :=
    ⟨⟨by decide, by decide⟩, by decide, by decide, (DispatchTable.exists_build_iff _).mp ⟨_, hbuild⟩⟩
  have hd : ∀ i ∈ [file, stream], i.domain ∈ (Forest.run ps).domains := by decide
  have hlaws : OrderingLaws f alive [file, stream] := f.orderingLaws alive ps hc hd
  have hchain : Chained [file, stream] := by
    unfold Chained
    decide
  refine ⟨hc, hd, hlaws, ?_, ?_⟩
  · rw [hlaws.first file [stream] rfl]
    decide
  · rw [hlaws.deepest hchain stream [file] (.swap stream file [])]
    unfold Deepest
    decide

end Closers

end Interop
