import Interop.Proofs.Verdict

namespace Interop

/-!
# What acceptance depends on

A list is read from the left and its declarations are compared with the first of their signature only.
Still it is accepted or not whatever the order, and with it its parts.

* `DispatchTable.Agree` — declarations of one signature have one result;
  `DispatchTable.exists_build_iff` says that only then there is a table.
* `Method.shape`, `DispatchTable.mem_shapes_iff` — what a method is but for its declarer and its variadic
  flag; the slots of a table have the shapes of the declarations.
* `Foundry.proxyType_uncached_isOk_iff` — the lists that a platform without a cache accepts.
* `Rearranged`, `Foundry.rearranged_of_perm` — the answers to a list and to a permutation of it.
* `Heredity`, `Foundry.heredity_of_accepted` — parts of an accepted list, and other domains for it.

Acceptance has two parts. The checks of the list look at each interface on its own, and at the numbers
of all of them, so they are insensitive to the order; visibility only grows towards the leaves of the
forest. The table compares each declaration with the first one of its signature, which does depend on
the order. But that it agrees with every such first one comes to the same as that any two declarations
of one signature agree, and this is symmetric. So acceptance is the conjunction of two properties of
the set of interfaces, and everything below follows from how these behave under permutation, in parts
of a list, and in domains below.

The table itself is not the same for every order: the first interface that declares a signature owns
the slot. What is the same is its shape, which leaves the owner and the variadic flag out.
-/

/-- The method but for who declares it and how many arguments it takes. -/
def Method.shape (m : Method) : Signature × Ty :=
  (m.signature, m.ret)

/-! ### Agreement

Of the declarations in front of it the table keeps the first of each signature, so a list has a table
iff no declaration clashes with the first of its own.
-/

namespace DispatchTable

/-- Declarations of one signature have one result. -/
def Agree (ms : List Method) : Prop :=
  ∀ m ∈ ms, ∀ m' ∈ ms, m.signature = m'.signature → m.ret = m'.ret

/-- Fewer declarations agree all the more. -/
theorem Agree.mono {ms ms' : List Method} (h : Agree ms) (hsub : ms' ⊆ ms) : Agree ms' :=
  fun m hm m' hm' => h m (hsub hm) m' (hsub hm')

variable {is js : List Interface} {t u : DispatchTable}

/-- Fewer interfaces declare no more. -/
theorem declarations_subset (h : js ⊆ is) : declarations js ⊆ declarations is := by
  intro m hm
  obtain ⟨i, hi, hmi⟩ := List.mem_flatMap.mp hm
  exact List.mem_flatMap.mpr ⟨i, h hi, hmi⟩

/-- There is a table iff any two declarations of one signature have one result. -/
theorem exists_build_iff (is : List Interface) :
    (∃ t, build is = .ok t) ↔ Agree (declarations is) := by
  constructor
  · rintro ⟨t, ht⟩ m hm m' hm' hsig
    -- Two declarations that disagree make one of them clash with the first of the signature.
    by_contra hne
    obtain ⟨m₀, hm₀, first, hc⟩ := (exists_clash_iff _).mpr ⟨m, hm, m', hm', hsig, hne⟩
    exact (of_build_eq_ok ht).2 m₀ hm₀ first hc
  · intro hagree
    cases hb : build is with
    | ok t => exact ⟨t, rfl⟩
    | error e =>
      obtain ⟨_, m, _, first, hms, -, hc, -⟩ := build_eq_error_iff.mp hb
      have hmem : m ∈ declarations is := by simp [hms]
      obtain ⟨m₁, hm₁, m₂, hm₂, hsig, hne⟩ := (exists_clash_iff _).mp ⟨m, hmem, first, hc⟩
      exact absurd (hagree m₁ hm₁ m₂ hm₂ hsig) hne

/-- The slots of a table have the shapes of the declarations, and no others. -/
theorem mem_shapes_iff (h : build is = .ok t) (p : Signature × Ty) :
    p ∈ t.slots.map Method.shape ↔ p ∈ (declarations is).map Method.shape := by
  rw [(of_build_eq_ok h).1]
  constructor
  · intro hp
    obtain ⟨m, hm, rfl⟩ := List.mem_map.mp hp
    exact List.mem_map_of_mem (List.mem_of_find?_eq_some ((mem_firsts_iff _ m).mp hm))
  · intro hp
    obtain ⟨m, hm, rfl⟩ := List.mem_map.mp hp
    -- The slot is the first declaration of the signature, which agrees with `m`.
    obtain ⟨first, hfirst, hmem, hsig⟩ := exists_first? hm
    have hret := (exists_build_iff is).mp ⟨t, h⟩ first hmem m hm hsig
    have hslot : first ∈ firsts (declarations is) := (mem_firsts_iff _ first).mpr (hsig ▸ hfirst)
    have hshape : m.shape = first.shape := by rw [Method.shape, Method.shape, hsig, hret]
    exact hshape ▸ List.mem_map_of_mem hslot

/-- A table gives a signature a result iff it has a slot of that shape. -/
theorem map_ret_resolve_eq_some_iff (t : DispatchTable) (s : Signature) (r : Ty) :
    (t.resolve s).map (·.ret) = some r ↔ (s, r) ∈ t.slots.map Method.shape := by
  simp [Option.map_eq_some_iff, resolve_eq_some_iff, Method.shape, and_assoc]

/-- No shape occurs twice among the slots, since no signature does. -/
theorem nodup_shapes (t : DispatchTable) : (t.slots.map Method.shape).Nodup := by
  apply List.Nodup.of_map Prod.fst
  rw [List.map_map]
  exact t.nodup_signatures

/-- Tables of the same declarations, in any order, have slots of the same shapes. -/
theorem shapes_perm (ht : build is = .ok t) (hu : build js = .ok u) (h : is.Perm js) :
    (t.slots.map Method.shape).Perm (u.slots.map Method.shape) := by
  -- Without repetition, lists with the same members are permutations of each other.
  refine (List.perm_ext_iff_of_nodup t.nodup_shapes u.nodup_shapes).mpr fun p => ?_
  rw [mem_shapes_iff ht, mem_shapes_iff hu]
  exact ((h.flatMap_right _).map _).mem_iff

end DispatchTable

/-! ### Acceptable lists -/

namespace Acceptable

variable {d e : Domain} {is js : List Interface}

/-- The order of the interfaces does not matter to the checks. -/
theorem perm (h : Acceptable d is) (hp : is.Perm js) : Acceptable d js where
  nonempty := fun hnil => h.nonempty (hnil ▸ hp).eq_nil
  bounded := hp.length_eq ▸ h.bounded
  kinds := fun i hi => h.kinds i (hp.mem_iff.mpr hi)
  visible := fun i hi => h.visible i (hp.mem_iff.mpr hi)
  distinct := (hp.map _).nodup h.distinct

/-- A part of the list passes them too, if it is not empty. -/
theorem sublist (h : Acceptable d is) (hs : js.Sublist is) (hne : js ≠ []) : Acceptable d js where
  nonempty := hne
  bounded := Nat.le_trans hs.length_le h.bounded
  kinds := fun i hi => h.kinds i (hs.subset hi)
  visible := fun i hi => h.visible i (hs.subset hi)
  distinct := h.distinct.sublist (hs.map _)

/-- What can be implemented in a domain can be implemented below it. -/
theorem below (h : Acceptable d is) (hed : e.Reaches d) : Acceptable e is :=
  { h with visible := fun i hi => hed.canSee (h.visible i hi) }

end Acceptable

namespace Foundry

variable {f f' : Foundry} {alive alive' : Nat → Bool} {d : Domain} {is js : List Interface}

/-- A platform without a cache gives out a new type, made of the list and the domain as they are, iff
    the list passes the checks and has a table. -/
theorem proxyType_uncached_eq_ok_iff {t : ProxyType} :
    (f.proxyType alive .uncached d is).1 = .ok t ↔
      Acceptable d is ∧ DispatchTable.build is = .ok t.table ∧
        t = ⟨f.next, d, is, t.table, some {}⟩ := by
  rw [proxyType_uncached, synthesize_eq_ok_iff]

/-- A platform without a cache accepts the acceptable lists whose declarations agree. -/
theorem proxyType_uncached_isOk_iff :
    (∃ t, (f.proxyType alive .uncached d is).1 = .ok t) ↔
      Acceptable d is ∧ DispatchTable.Agree (DispatchTable.declarations is) := by
  rw [← DispatchTable.exists_build_iff]
  constructor
  · rintro ⟨t, ht⟩
    obtain ⟨ha, hb, -⟩ := proxyType_uncached_eq_ok_iff.mp ht
    exact ⟨ha, t.table, hb⟩
  · rintro ⟨ha, table, hb⟩
    exact ⟨⟨f.next, d, is, table, some {}⟩, proxyType_uncached_eq_ok_iff.mpr ⟨ha, hb, rfl⟩⟩

end Foundry

namespace Closers

/-- The domain of a host. -/
def host : Domain := .root 1 "host"

/-- The domain of a plugin of the host. -/
def plugin : Domain := .child 2 "plugin" host

/-- A descriptor of the host that is closed with a list of codes. -/
def file : Interface :=
  ((Interface.new "File" host .interface).declare
    ⟨"File", "close", [.array .int], .boolean, false⟩).build 1

/-- A descriptor of the plugin that is closed with any number of codes, and has a size. -/
def stream : Interface :=
  (((Interface.new "Stream" plugin .interface).declare
    ⟨"Stream", "close", [.array .int], .boolean, true⟩).declare
      ⟨"Stream", "size", [], .int, false⟩).build 2

/-- The type of both descriptors, in the domain of the plugin. -/
def both : ProxyType where
  id := 0
  domain := plugin
  interfaces := [file, stream]
  table := .push (.push .empty ⟨"File", "close", [.array .int], .boolean, false⟩ rfl)
    ⟨"Stream", "size", [], .int, false⟩ rfl
  constructor := some {}

/-- Their declarations of one signature agree in the result, though one is variadic. -/
theorem accepted_both :
    (Foundry.proxyType {} (fun _ => false) .uncached plugin [file, stream]).1 = .ok both :=
  Foundry.proxyType_uncached_eq_ok_iff.mpr
    ⟨⟨by decide, by decide, by decide, by decide, by decide⟩, by rfl, rfl⟩

end Closers

/-! ### Order -/

/-- Two answers that do not differ in what a proxy can do. -/
structure Rearranged (r r' : Except ConstructionError ProxyType) : Prop where
  accepted : (∃ t, r = .ok t) ↔ ∃ u, r' = .ok u
  size : ∀ t u, r = .ok t → r' = .ok u → t.table.size = u.table.size
  signatures : ∀ t u, r = .ok t → r' = .ok u → ∀ s,
    s ∈ t.table.slots.map (·.signature) ↔ s ∈ u.table.slots.map (·.signature)
  results : ∀ t u, r = .ok t → r' = .ok u → ∀ s,
    (t.table.resolve s).map (·.ret) = (u.table.resolve s).map (·.ret)
  /-- But for their order, their owners and the flags of these the slots are the same. -/
  shapes : ∀ t u, r = .ok t → r' = .ok u →
    (t.table.slots.map Method.shape).Perm (u.table.slots.map Method.shape)

/-- The order in which interfaces are listed does not decide what a proxy can do. -/
theorem Foundry.rearranged_of_perm (f f' : Foundry) (alive alive' : Nat → Bool) (d : Domain)
    {is js : List Interface} (h : is.Perm js) :
    Rearranged (f.proxyType alive .uncached d is).1 (f'.proxyType alive' .uncached d js).1 := by
  have hshapes : ∀ t u, (f.proxyType alive .uncached d is).1 = .ok t →
      (f'.proxyType alive' .uncached d js).1 = .ok u →
        (t.table.slots.map Method.shape).Perm (u.table.slots.map Method.shape) := by
    intro t u ht hu
    obtain ⟨-, hbt, -⟩ := proxyType_uncached_eq_ok_iff.mp ht
    obtain ⟨-, hbu, -⟩ := proxyType_uncached_eq_ok_iff.mp hu
    exact DispatchTable.shapes_perm hbt hbu h
  refine ⟨?_, fun t u ht hu => ?_, fun t u ht hu s => ?_, fun t u ht hu s => ?_, hshapes⟩
  · rw [proxyType_uncached_isOk_iff, proxyType_uncached_isOk_iff]
    constructor
    · rintro ⟨ha, hagree⟩
      exact ⟨ha.perm h, hagree.mono (DispatchTable.declarations_subset h.symm.subset)⟩
    · rintro ⟨ha, hagree⟩
      exact ⟨ha.perm h.symm, hagree.mono (DispatchTable.declarations_subset h.subset)⟩
  · -- The size, the signatures and the results of a table are all read off its shapes.
    simpa [DispatchTable.size] using (hshapes t u ht hu).length_eq
  · have hsigs := ((hshapes t u ht hu).map Prod.fst).mem_iff (a := s)
    rw [List.map_map, List.map_map] at hsigs
    exact hsigs
  · refine Option.ext fun r => ?_
    rw [DispatchTable.map_ret_resolve_eq_some_iff, DispatchTable.map_ret_resolve_eq_some_iff]
    exact (hshapes t u ht hu).mem_iff

namespace Closers

/-- In the other order the other descriptor owns the slot, and nothing else differs. -/
theorem rearranged_file_stream :
    [file, stream].Perm [stream, file] ∧
      (Foundry.proxyType {} (fun _ => false) .uncached plugin [file, stream]).1 = .ok both ∧
      Rearranged (Foundry.proxyType {} (fun _ => false) .uncached plugin [file, stream]).1
        (Foundry.proxyType {} (fun _ => false) .uncached plugin [stream, file]).1 :=
  have h : [file, stream].Perm [stream, file] := .swap stream file []
  ⟨h, accepted_both, Foundry.rearranged_of_perm {} {} _ _ plugin h⟩

end Closers

/-! ### Heredity

A part of a list has fewer declarations, which agree as before, and the list in a domain below has the
same ones, so even the same table.
-/

/-- What follows for other requests where `t` was made for the list `is` in `d`. -/
structure Heredity (d : Domain) (is : List Interface) (t : ProxyType) : Prop where
  /-- Any part of the list is accepted, and its table gives no signature another result. -/
  sublist : ∀ js, js.Sublist is → js ≠ [] → ∀ (f : Foundry) (alive : Nat → Bool),
    ∃ u, (f.proxyType alive .uncached d js).1 = .ok u ∧
      ∀ s m, u.table.resolve s = some m → ∃ m', t.table.resolve s = some m' ∧ m'.ret = m.ret
  /-- The list is accepted in any domain below, with the very same table. -/
  below : ∀ e, e.Reaches d → ∀ (f : Foundry) (alive : Nat → Bool),
    ∃ u, (f.proxyType alive .uncached e is).1 = .ok u ∧ u.table = t.table

/-- Parts of an accepted list are accepted, and it is accepted in all domains below. -/
theorem Foundry.heredity_of_accepted {f : Foundry} {alive : Nat → Bool} {d : Domain}
    {is : List Interface} {t : ProxyType} (h : (f.proxyType alive .uncached d is).1 = .ok t) :
    Heredity d is t := by
  obtain ⟨ha, hb, -⟩ := proxyType_uncached_eq_ok_iff.mp h
  refine ⟨fun js hs hne f alive => ?_, fun e hed f alive => ?_⟩
  · have hdecls := DispatchTable.declarations_subset hs.subset
    have hagree := ((DispatchTable.exists_build_iff is).mp ⟨_, hb⟩).mono hdecls
    obtain ⟨u, hu⟩ := proxyType_uncached_isOk_iff.mpr ⟨ha.sublist hs hne, hagree⟩
    refine ⟨u, hu, fun s m hm => ?_⟩
    obtain ⟨-, hbu, -⟩ := proxyType_uncached_eq_ok_iff.mp hu
    -- A slot of the part has the shape of a declaration, which is one of the whole list.
    have hpart : (s, m.ret) ∈ u.table.slots.map Method.shape := by
      rw [← DispatchTable.map_ret_resolve_eq_some_iff, hm]
      rfl
    rw [DispatchTable.mem_shapes_iff hbu] at hpart
    have hwhole := (DispatchTable.mem_shapes_iff hb _).mpr (List.map_subset _ hdecls hpart)
    rw [← DispatchTable.map_ret_resolve_eq_some_iff] at hwhole
    exact Option.map_eq_some_iff.mp hwhole
  · exact ⟨⟨f.next, e, is, t.table, some {}⟩,
      proxyType_uncached_eq_ok_iff.mpr ⟨ha.below hed, hb, rfl⟩, rfl⟩

namespace Closers

/-- The list was accepted, so each of the two is on its own. -/
theorem heredity_both :
    (Foundry.proxyType {} (fun _ => false) .uncached plugin [file, stream]).1 = .ok both ∧
      Heredity plugin [file, stream] both :=
  ⟨accepted_both, Foundry.heredity_of_accepted accepted_both⟩

end Closers

end Interop
