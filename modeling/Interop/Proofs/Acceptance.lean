import Interop.Proxy.Synthesis

namespace Interop

/-!
# What synthesis accepts

`synthesize` reads an interface list from the left and stops at the first fault. This file says
without an order what it means that there is no fault, and what the resulting type is.

* `Acceptable d is` — the conditions on a list that may be implemented in `d`; `validate_eq_ok_iff`
  shows that the check accepts exactly these lists.
* `synthesize_eq_ok_iff` — the type that synthesis makes, and when it makes one.
* `Interface.contract`, `ProxyType.view` — what one can tell of an interface or a type without
  telling which one it is; `outcome` is what a request amounts to under that view.
* `outcome_synthesize_eq_ok_iff` — when synthesis makes a type that looks like a given one.

The check keeps the serial numbers that it has seen, so what it says about a list depends on what came
before. An induction has to be about any set of numbers seen so far; with none seen, what is left is
that no number occurs twice. After the check the table is built, and it does not look at identities at
all. So there are two things that can make a type fail, and they share no part of the list.
-/

/-! ### Validation -/

/-- The check of a list against `d` and the serial numbers `seen` passes iff all its members are
    visible interfaces, and no serial number occurs twice or in `seen`. -/
theorem validateFrom_eq_ok_iff (d : Domain) (seen : Std.HashSet Nat) (is : List Interface) :
    validateFrom d seen is = .ok () ↔
      (∀ i ∈ is, i.isInterface = true ∧ d.canSee i.domain = true ∧ i.serial ∉ seen) ∧
        (is.map (·.serial)).Nodup := by
  -- The set of seen numbers grows from member to member.
  induction is generalizing seen with
  | nil => simp [validateFrom]
  | cons i is ih =>
    unfold validateFrom
    by_cases hk : i.isInterface = true
    case neg => simp [hk]
    by_cases hv : d.canSee i.domain = true
    case neg => simp [hk, hv]
    by_cases hs : i.serial ∈ seen
    · have hc : seen.contains i.serial = true := Std.HashSet.mem_iff_contains.mp hs
      simp [hk, hv, hc, hs]
    · have hc : seen.contains i.serial = false := by
        rw [← Bool.not_eq_true, ← Std.HashSet.mem_iff_contains]
        exact hs
      simp only [hk, hv, hc, Bool.not_true, Bool.false_eq_true, if_false, ih, List.mem_cons,
        forall_eq_or_imp, hs, not_false_eq_true, true_and, List.map_cons, List.nodup_cons,
        Std.HashSet.mem_insert, beq_iff_eq, not_or, List.mem_map]
      -- The head's number is new to the tail iff no member of the tail repeats it.
      constructor
      · rintro ⟨hm, hn⟩
        refine ⟨fun j hj => ⟨(hm j hj).1, (hm j hj).2.1, (hm j hj).2.2.2⟩, ?_, hn⟩
        rintro ⟨j, hj, he⟩
        exact (hm j hj).2.2.1 he.symm
      · rintro ⟨hm, hne, hn⟩
        refine ⟨fun j hj => ⟨(hm j hj).1, (hm j hj).2.1, ?_, (hm j hj).2.2⟩, hn⟩
        intro he
        exact hne ⟨j, hj, he.symm⟩

/-- The interface lists that may be implemented in `d`. -/
structure Acceptable (d : Domain) (is : List Interface) : Prop where
  nonempty : is ≠ []
  bounded : is.length ≤ interfaceLimit
  kinds : ∀ i ∈ is, i.isInterface = true
  visible : ∀ i ∈ is, d.canSee i.domain = true
  distinct : (is.map (·.serial)).Nodup

/-- The check accepts exactly the acceptable lists. -/
theorem validate_eq_ok_iff (d : Domain) (is : List Interface) :
    validate d is = .ok () ↔ Acceptable d is := by
  unfold validate
  cases is with
  | nil => simpa using fun h : Acceptable d [] => h.nonempty rfl
  | cons i is =>
    by_cases hb : interfaceLimit < (i :: is).length
    · have hna : ¬ Acceptable d (i :: is) := fun h => absurd h.bounded (by omega)
      rw [List.isEmpty_cons, if_neg Bool.false_ne_true, if_pos hb]
      simp [hna]
    · rw [List.isEmpty_cons, if_neg Bool.false_ne_true, if_neg hb, validateFrom_eq_ok_iff]
      constructor
      · rintro ⟨hm, hn⟩
        exact ⟨by simp, by omega, fun j hj => (hm j hj).1, fun j hj => (hm j hj).2.1, hn⟩
      · intro h
        exact ⟨fun j hj => ⟨h.kinds j hj, h.visible j hj, by simp⟩, h.distinct⟩

/-! ### Synthesis -/

/-- Synthesis succeeds iff the list is acceptable and its declarations agree, and then the type has
    the given number, domain and list, the table of the list, and the default constructor. -/
theorem synthesize_eq_ok_iff {next : Nat} {d : Domain} {is : List Interface} {t : ProxyType} :
    synthesize next d is = .ok t ↔
      Acceptable d is ∧ DispatchTable.build is = .ok t.table ∧
        t = ⟨next, d, is, t.table, some {}⟩ := by
  unfold synthesize
  cases hv : validate d is with
  | error e =>
    have hna : ¬ Acceptable d is := by
      rw [← validate_eq_ok_iff, hv]
      simp
    simp [hna]
  | ok u =>
    have ha : Acceptable d is := (validate_eq_ok_iff d is).mp hv
    -- The list is acceptable, so the table alone decides.
    cases hb : DispatchTable.build is with
    | error e => simp [ha]
    | ok table =>
      simp only [ha, true_and, Except.ok.injEq]
      constructor
      · rintro rfl
        exact ⟨rfl, rfl⟩
      · rintro ⟨htable, ht⟩
        rw [ht, htable]

/-- A type that synthesis makes of its own domain and interfaces. -/
def ProxyType.Synthesized (t : ProxyType) : Prop :=
  synthesize t.id t.domain t.interfaces = .ok t

/-- What synthesis makes has the number, domain and list it was made from. -/
theorem synthesize_eq_ok {next : Nat} {d : Domain} {is : List Interface} {t : ProxyType}
    (h : synthesize next d is = .ok t) :
    t.id = next ∧ t.domain = d ∧ t.interfaces = is ∧ t.Synthesized := by
  have ht := (synthesize_eq_ok_iff.mp h).2.2
  have hid : t.id = next := by rw [ht]
  have hd : t.domain = d := by rw [ht]
  have hi : t.interfaces = is := by rw [ht]
  refine ⟨hid, hd, hi, ?_⟩
  rw [ProxyType.Synthesized, hid, hd, hi]
  exact h

namespace ProxyType.Synthesized

variable {t : ProxyType}

/-- The interfaces of a synthesized type were acceptable in its domain. -/
theorem acceptable (h : t.Synthesized) : Acceptable t.domain t.interfaces :=
  (synthesize_eq_ok_iff.mp h).1

/-- A synthesized type has the table of its interfaces. -/
theorem build (h : t.Synthesized) : DispatchTable.build t.interfaces = .ok t.table :=
  (synthesize_eq_ok_iff.mp h).2.1

/-- A synthesized type has the default constructor. -/
theorem constructor_eq (h : t.Synthesized) : t.constructor = some {} := by
  rw [(synthesize_eq_ok_iff.mp h).2.2]

end ProxyType.Synthesized

/-! ### What a type looks like

Two types are never the same, since types have numbers. What a host sees of them is the domain, the
contracts in order, the slots and the constructor.
-/

/-- What a type implements of an interface, whichever interface it is. -/
def Interface.contract (i : Interface) : DescriptorKind × String × List Method :=
  (i.kind, i.name, i.methods)

/-- What one can tell of a proxy type without telling which one it is. -/
structure TypeView where
  /-- The identity of the domain. -/
  domain : Nat
  interfaces : List (DescriptorKind × String × List Method)
  slots : List Method
  constructor : Option Constructor
deriving DecidableEq

/-- What one can tell of the type without its number and the identities of its interfaces. -/
def ProxyType.view (t : ProxyType) : TypeView :=
  ⟨t.domain.id, t.interfaces.map (·.contract), t.table.slots, t.constructor⟩

/-- What a request for a type amounts to, whichever type was given. -/
def outcome (r : Except ConstructionError ProxyType) : Except ConstructionError TypeView :=
  r.map ProxyType.view

/-- The number that a type would get does not change what a request amounts to. -/
theorem outcome_synthesize_number (n m : Nat) (d : Domain) (is : List Interface) :
    outcome (synthesize n d is) = outcome (synthesize m d is) := by
  unfold synthesize
  cases validate d is with
  | error e => rfl
  | ok u =>
    cases DispatchTable.build is with
    | error e => rfl
    | ok table => rfl

/-- Lists with equal contracts have equal declarations. -/
theorem declarations_eq_of_contract {is js : List Interface}
    (h : is.map (·.contract) = js.map (·.contract)) :
    DispatchTable.declarations is = DispatchTable.declarations js := by
  have hm : is.map (·.methods) = js.map (·.methods) := by
    have := congrArg (List.map (·.2.2)) h
    simpa [Interface.contract, Function.comp_def] using this
  unfold DispatchTable.declarations
  rw [List.flatMap_def, List.flatMap_def, hm]

/-- A list whose contracts, in order, are those of an acceptable list with the same serial numbers
    is acceptable wherever all its interfaces are visible. -/
theorem Acceptable.of_contract {d e : Domain} {is js : List Interface} (h : Acceptable e js)
    (hs : js.map (·.serial) = is.map (·.serial)) (hc : js.map (·.contract) = is.map (·.contract))
    (hv : ∀ i ∈ is, d.canSee i.domain = true) : Acceptable d is := by
  have hl : js.length = is.length := by simpa using congrArg List.length hs
  refine ⟨?_, hl ▸ h.bounded, ?_, hv, hs ▸ h.distinct⟩
  · rintro rfl
    exact h.nonempty (List.length_eq_zero_iff.mp hl)
  · intro i hi
    -- The kind of `i` is part of its contract, which some member of `js` has too.
    have hm : i.contract ∈ js.map (·.contract) := by
      rw [hc]
      exact List.mem_map_of_mem hi
    obtain ⟨j, hj, hji⟩ := List.mem_map.mp hm
    have hk : j.kind = i.kind := congrArg Prod.fst hji
    have := h.kinds j hj
    simpa [Interface.isInterface, hk] using this

/-- Against the key of a synthesized type `t`, a list is made into a type that looks like `t` iff
    its contracts are those of `t` in order and all its interfaces are visible. -/
theorem outcome_synthesize_eq_ok_iff {t : ProxyType} (ht : t.Synthesized) {d : Domain}
    {is : List Interface} (hd : t.domain.id = d.id)
    (hs : t.interfaces.map (·.serial) = is.map (·.serial)) (next : Nat) :
    outcome (synthesize next d is) = .ok t.view ↔
      t.interfaces.map (·.contract) = is.map (·.contract) ∧
        ∀ i ∈ is, d.canSee i.domain = true := by
  constructor
  · intro h
    cases hr : synthesize next d is with
    | error e =>
      rw [hr] at h
      cases h
    | ok u =>
      rw [hr] at h
      have hu : u.view = t.view := by simpa [outcome, Except.map] using h
      obtain ⟨-, -, hui, hus⟩ := synthesize_eq_ok hr
      have hc := congrArg TypeView.interfaces hu
      simp only [ProxyType.view, hui] at hc
      exact ⟨hc.symm, (synthesize_eq_ok_iff.mp hr).1.visible⟩
  · rintro ⟨hc, hv⟩
    -- Validation sees serial numbers, kinds and domains, and the table sees methods only.
    have ha : Acceptable d is := ht.acceptable.of_contract hs hc hv
    have hb : DispatchTable.build is = .ok t.table := by
      rw [← ht.build, DispatchTable.build, DispatchTable.build, declarations_eq_of_contract hc]
    have hr : synthesize next d is = .ok ⟨next, d, is, t.table, some {}⟩ :=
      synthesize_eq_ok_iff.mpr ⟨ha, hb, rfl⟩
    rw [hr]
    simp [outcome, Except.map, ProxyType.view, hd, hc, ht.constructor_eq]

end Interop
