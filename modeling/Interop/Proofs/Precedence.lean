import Mathlib.Data.List.Nodup
import Interop.Config.Policy
import Interop.Proofs.ByteOrder

namespace Interop

/-!
# Which entry of a configuration decides

The access section of a configuration maps keys to permissions as they are written. A type may be
named by its own entry and by any number of wildcards at once.

* `FirstKey` — the key, among those with a property, whose bytes come first.
* `Entries.KeyWith`, `Entries.find?_eq_some_iff` — a search through a sorted map finds the first key;
  `Entries.ext_get?`, `Entries.get?_ofList` — the order in which a map was filled leaves no trace.
* `Policy.Took`, `Policy.took_addEntries` — what a policy holds once it has taken entries.
* `AccessConfig.Refused`, `AccessConfig.Decides` — the value that spoils a section; the permission
  that a section gives a type.
* `Config.policyLaws` — the policy of a configuration is as these say, whatever the order of the
  entries.

The entries are a sorted map, and a search through it stops at the first key with a property. In a
sorted list the first is the least, so what a search finds can be said without a search. Entries then
go into a policy, exact ones into its table and wildcards into its rules, in the order of their keys;
`Policy.Took` says what it holds afterwards, and is proved by induction on the entries. With both, a
resolution by the policy is a statement about the entries of the section.
-/

/-- The key with the property whose bytes come first. -/
structure FirstKey (P : String → Prop) (k : String) : Prop where
  holds : P k
  least : ∀ k', P k' → bytes k ≤ bytes k'

/-- There is one first key: texts with the same bytes are the same. -/
theorem FirstKey.unique {P : String → Prop} {k k' : String} (h : FirstKey P k)
    (h' : FirstKey P k') : k = k' := by
  have hle : ∀ s t : String, bytes s ≤ bytes t → s ≤ t := by
    intro s t hst
    rw [← String.not_lt, lt_iff_bytes_lt]
    exact hst
  exact String.le_antisymm (hle _ _ (h.least k' h'.holds)) (hle _ _ (h'.least k h.holds))

/-! ### Sorted maps -/

namespace Entries

variable (es : Entries)

/-- No key occurs twice in a sorted map. -/
theorem nodup_keys : (es.toList.map (·.1)).Nodup := by
  rw [List.Nodup, List.pairwise_map]
  apply es.sorted.imp
  intro e e' hlt heq
  rw [heq] at hlt
  exact String.lt_irrefl _ hlt

/-- So no entry does. -/
theorem nodup_toList : es.toList.Nodup :=
  es.nodup_keys.of_map Prod.fst

/-- The entries are what the keys find. -/
theorem mem_toList_iff {k v : String} : (k, v) ∈ es.toList ↔ es.get? k = some v :=
  ⟨lookup_of_mem es.nodup_keys, mem_of_lookup⟩

/-- The keys of the entries with a property. -/
def KeyWith (P : String × String → Bool) (k : String) : Prop :=
  ∃ v, es.get? k = some v ∧ P (k, v) = true

/-- What a search finds is under the first key. -/
theorem firstKey_of_find? {es : Entries} {P : String × String → Bool} {k v : String}
    (h : es.toList.find? P = some (k, v)) : es.get? k = some v ∧ FirstKey (es.KeyWith P) k := by
  obtain ⟨hP, before, after, hes, hbefore⟩ := List.find?_eq_some_iff_append.mp h
  have hget : es.get? k = some v := es.mem_toList_iff.mp (by simp [hes])
  refine ⟨hget, ⟨v, hget, hP⟩, ?_⟩
  rintro k' ⟨v', hget', hP'⟩
  have hmem := es.mem_toList_iff.mpr hget'
  have hsorted := es.sorted
  rw [hes] at hmem hsorted
  -- The search passed over what stands before; what stands behind has a larger key.
  rcases List.mem_append.mp hmem with hmem | hmem
  · have hnot := hbefore _ hmem
    simp [hP'] at hnot
  · rcases List.mem_cons.mp hmem with heq | hmem
    · rw [(Prod.mk.inj heq).1]
      exact List.le_refl _
    · have hlt := (List.pairwise_cons.mp (List.pairwise_append.mp hsorted).2.1).1 _ hmem
      exact List.le_of_lt ((lt_iff_bytes_lt _ _).mp hlt)

/-- A search finds the entry whose key comes first. -/
theorem find?_eq_some_iff (P : String × String → Bool) {k v : String} :
    es.toList.find? P = some (k, v) ↔ es.get? k = some v ∧ FirstKey (es.KeyWith P) k := by
  refine ⟨firstKey_of_find?, ?_⟩
  rintro ⟨hget, hkey⟩
  obtain ⟨v', hget', hP⟩ := hkey.holds
  cases hfind : es.toList.find? P with
  | none =>
    have hnot := List.find?_eq_none.mp hfind _ (es.mem_toList_iff.mpr hget')
    exact absurd hP hnot
  | some e =>
    obtain ⟨hgot, hkey'⟩ := firstKey_of_find? (k := e.1) (v := e.2) hfind
    obtain rfl := hkey.unique hkey'
    rw [hget] at hgot
    rw [Option.some.inj hgot]

/-- A map is what its keys find. -/
theorem ext_get? {a b : Entries} (h : ∀ k, a.get? k = b.get? k) : a = b := by
  have hmem : ∀ e, e ∈ a.toList ↔ e ∈ b.toList := by
    rintro ⟨k, v⟩
    rw [a.mem_toList_iff, b.mem_toList_iff, h]
  have hperm := (List.perm_ext_iff_of_nodup a.nodup_toList b.nodup_toList).mpr hmem
  -- The lists are permutations of each other, and both are sorted.
  have hasymm : ∀ e e', e ∈ a.toList → e' ∈ b.toList → e.1 < e'.1 → e'.1 < e.1 → e = e' :=
    fun e e' _ _ hlt hgt => absurd hgt (String.lt_asymm hlt)
  have hlist := hperm.eq_of_pairwise hasymm a.sorted b.sorted
  cases a
  cases b
  rw [Entries.mk.injEq]
  exact hlist

/-- A key finds what was put under it last. -/
theorem get?_ofList (l : List (String × String)) (k : String) :
    (ofList l).get? k = l.reverse.lookup k := by
  -- Said of any map to start from, so that the induction goes through.
  have hfill : ∀ (es : Entries),
      (l.foldl (fun m e => m.insert e.1 e.2) es).get? k = (l.reverse.lookup k).or (es.get? k) := by
    induction l with
    | nil => intro es; rfl
    | cons e l ih =>
      intro es
      rw [List.foldl_cons, ih, List.reverse_cons, List.lookup_append, Option.or_assoc,
        List.lookup_cons]
      by_cases hk : k = e.1
      · rw [hk, get?_insert_self, beq_self_eq_true]
        rfl
      · rw [get?_insert_of_ne es hk, beq_false_of_ne hk]
        rfl
  rw [ofList, hfill]
  exact Option.or_none

/-- A map may be filled in any order. -/
theorem ofList_of_perm {l : List (String × String)} (h : l.Perm es.toList) : ofList l = es := by
  have hnodup : (l.reverse.map (·.1)).Nodup :=
    (((List.reverse_perm l).trans h).map _).nodup_iff.mpr es.nodup_keys
  apply ext_get?
  intro k
  rw [get?_ofList]
  apply Option.ext
  intro v
  rw [← es.mem_toList_iff, ← h.mem_iff, ← List.mem_reverse]
  exact ⟨mem_of_lookup, lookup_of_mem hnodup⟩

end Entries

/-! ### Taking entries into a policy -/

/-- The rule that an entry stands for. -/
def Rule.ofPair? (e : String × String) : Option Rule :=
  if isWildcard e.1 then (Permission.parse e.2).map (⟨e.1, ·⟩) else none

/-- An entry stands for a rule iff its key is a wildcard and its value reads. -/
theorem Rule.ofPair?_eq_some_iff {k v : String} {r : Rule} :
    Rule.ofPair? (k, v) = some r ↔
      isWildcard k = true ∧ ∃ q, Permission.parse v = some q ∧ r = ⟨k, q⟩ := by
  by_cases hw : isWildcard k = true
  · simp [ofPair?, hw, @eq_comm _ r]
  · simp [ofPair?, hw]

/-- The policy `q` is `p` with the entries taken in. -/
structure Policy.Took (p : Policy) (es : List (String × String)) (q : Policy) : Prop where
  reads : ∀ e ∈ es, Permission.parse e.2 ≠ none
  global : q.global = p.global
  rules : q.rules = p.rules ++ es.filterMap Rule.ofPair?
  types : ∀ T, q.types.lookup T =
    if isWildcard T then p.types.lookup T
    else ((es.lookup T).bind Permission.parse).or (p.types.lookup T)

/-- A name finds the entry that was set last, and other names find what they found before. -/
theorem Policy.lookup_setType (p : Policy) (name T : String) (permission : Permission) :
    (p.setType name permission).types.lookup T =
      if T = name then some permission else p.types.lookup T := by
  by_cases h : T = name
  · simp [setType, h]
  · simp [setType, h, List.lookup_cons, beq_false_of_ne h, lookup_filter_of_ne h]

/-- A policy that takes entries has taken them all. -/
theorem Policy.took_addEntries {es : List (String × String)} (hn : (es.map (·.1)).Nodup)
    {p q : Policy} (h : p.addEntries es = .ok q) : p.Took es q := by
  -- On the entries, from any policy; an entry is a rule or an exact one by its key.
  induction es generalizing p with
  | nil =>
    cases h
    exact ⟨by simp, rfl, by simp, by simp⟩
  | cons e es ih =>
    obtain ⟨key, value⟩ := e
    rw [List.map_cons, List.nodup_cons] at hn
    obtain ⟨hkey, hn⟩ := hn
    cases hv : Permission.parse value with
    | none => simp [addEntries, hv] at h
    | some permission =>
      by_cases hw : isWildcard key = true
      · have ht := ih hn (p := p.addRule ⟨key, permission⟩) (by simpa [addEntries, hv, hw] using h)
        refine ⟨by simpa [hv] using ht.reads, ht.global, ?_, fun T => ?_⟩
        · simp [ht.rules, addRule, Rule.ofPair?, hw, hv]
        · rw [ht.types]
          by_cases hT : isWildcard T = true
          · simp [hT, addRule]
          · -- The key of a rule is not the name of this type.
            have hne : T ≠ key := fun heq => hT (heq ▸ hw)
            simp [hT, addRule, List.lookup_cons, beq_false_of_ne hne]
      · have ht := ih hn (p := p.setType key permission) (by simpa [addEntries, hv, hw] using h)
        refine ⟨by simpa [hv] using ht.reads, ht.global, ?_, fun T => ?_⟩
        · simp [ht.rules, setType, Rule.ofPair?, hw]
        · rw [ht.types, lookup_setType]
          by_cases hT : T = key
          · -- The key does not come again, so what is set here stays.
            have hnone : es.lookup key = none := by
              rw [List.lookup_eq_none_iff]
              intro e he
              have hne : key ≠ e.1 := by
                rintro rfl
                exact hkey (List.mem_map.mpr ⟨e, he, rfl⟩)
              simpa using hne
            simp [hT, hw, hv, hnone]
          · simp [hT, List.lookup_cons, beq_false_of_ne hT]

/-- The first value that does not read spoils the entries. -/
theorem Policy.addEntries_eq_error_iff (es : List (String × String)) (p : Policy) (e : ConfigError) :
    p.addEntries es = .error e ↔
      ∃ k v, es.find? (fun e => (Permission.parse e.2).isNone) = some (k, v) ∧
        e = .invalidPermission k v := by
  induction es generalizing p with
  | nil => simp [addEntries]
  | cons entry es ih =>
    obtain ⟨key, value⟩ := entry
    cases hv : Permission.parse value with
    | none =>
      simp [addEntries, hv, eq_comm, and_assoc]
    | some permission =>
      by_cases hw : isWildcard key = true
      · simp [addEntries, hv, hw, ih]
      · simp [addEntries, hv, hw, ih]

/-! ### What a section says -/

namespace AccessConfig

variable (a : AccessConfig)

/-- The key has a value that does not read as a permission. -/
def Spoiled (k : String) : Prop :=
  ∃ v, a.types.get? k = some v ∧ Permission.parse v = none

/-- The value of the entry for exactly this type. A key with a star is a rule. -/
def ownValue? (T : String) : Option String :=
  if isWildcard T then none else a.types.get? T

/-- The key stands for a rule that speaks of the type. -/
def Covers (T k : String) : Prop :=
  a.types.get? k ≠ none ∧ isWildcard k = true ∧ (Pattern.ofString k).admits T.toList = true

/-- The section is refused: its default does not read, or else some value does not, and the one
    whose key comes first is reported as it is written. -/
inductive Refused : ConfigError → Prop
  | global (h : Permission.parse a.global = none) : Refused (.invalidPermission "global" a.global)
  | entry {k v : String} (hglobal : Permission.parse a.global ≠ none) (hk : FirstKey a.Spoiled k)
      (hv : a.types.get? k = some v) : Refused (.invalidPermission k v)

/-- The permission that the section gives a type: that of its own entry, else that of the first
    wildcard which matches it, else the default. -/
inductive Decides (T : String) : Permission → Prop
  | own {v : String} {q : Permission} (hv : a.ownValue? T = some v)
      (hq : Permission.parse v = some q) : Decides T q
  | rule {k v : String} {q : Permission} (hown : a.ownValue? T = none)
      (hk : FirstKey (a.Covers T) k) (hv : a.types.get? k = some v)
      (hq : Permission.parse v = some q) : Decides T q
  | global {q : Permission} (hown : a.ownValue? T = none) (hnone : ∀ k, ¬ a.Covers T k)
      (hq : Permission.parse a.global = some q) : Decides T q

variable {a} {p : Policy} {T : String} {q q' : Permission}

/-- A section decides once: an entry comes before the rules, and the rules before the default. -/
theorem Decides.unique (h : a.Decides T q) (h' : a.Decides T q') : q = q' := by
  cases h with
  | own hv hq =>
    cases h' with
    | own hv' hq' =>
      obtain rfl := Option.some.inj (hv.symm.trans hv')
      exact Option.some.inj (hq.symm.trans hq')
    | rule hown | global hown => cases hv.symm.trans hown
  | rule hown hk hv hq =>
    cases h' with
    | own hv' => cases hown.symm.trans hv'
    | rule _ hk' hv' hq' =>
      obtain rfl := hk.unique hk'
      obtain rfl := Option.some.inj (hv.symm.trans hv')
      exact Option.some.inj (hq.symm.trans hq')
    | global _ hnone => exact absurd hk.holds (hnone _)
  | global hown hnone hq =>
    cases h' with
    | own hv' => cases hown.symm.trans hv'
    | rule _ hk' => exact absurd hk'.holds (hnone _)
    | global _ _ hq' => exact Option.some.inj (hq.symm.trans hq')

/-! ### The policy of a section -/

/-- The policy of a section starts from the default and takes the entries. -/
theorem took_of_policy (h : a.policy = .ok p) :
    ∃ q, Permission.parse a.global = some q ∧ Policy.Took { global := q } a.types.toList p := by
  rw [policy] at h
  cases hg : Permission.parse a.global with
  | none => simp [hg] at h
  | some q =>
    rw [hg] at h
    exact ⟨q, rfl, Policy.took_addEntries a.types.nodup_keys h⟩

/-- A section has no policy iff some value of it does not read, and the error names the first. -/
theorem policy_eq_error_iff (e : ConfigError) : a.policy = .error e ↔ a.Refused e := by
  have hspoiled : a.Spoiled = a.types.KeyWith fun e => (Permission.parse e.2).isNone := by
    funext k
    simp [Spoiled, Entries.KeyWith]
  rw [policy]
  cases hg : Permission.parse a.global with
  | none =>
    constructor
    · intro h
      cases h
      exact .global hg
    · intro h
      cases h with
      | global => rfl
      | entry hglobal => exact absurd hg hglobal
  | some q =>
    simp only [Policy.addEntries_eq_error_iff, Entries.find?_eq_some_iff]
    rw [← hspoiled]
    constructor
    · rintro ⟨k, v, ⟨hv, hk⟩, rfl⟩
      exact .entry (by simp [hg]) hk hv
    · intro h
      cases h with
      | global hbad => cases hg.symm.trans hbad
      | entry _ hk hv => exact ⟨_, _, ⟨hv, hk⟩, rfl⟩

/-- The policy of a section that reads knows the types of their own entries alone. -/
theorem lookup_types (h : a.policy = .ok p) (T : String) :
    p.types.lookup T = (a.ownValue? T).bind Permission.parse := by
  obtain ⟨_, -, ht⟩ := took_of_policy h
  rw [ht.types, ownValue?]
  split
  · rfl
  · exact Option.or_none

/-- Where every value reads, a rule of the policy matches a type iff its key covers it. -/
theorem covers_iff (h : a.policy = .ok p) (T k : String) :
    a.Covers T k ↔ a.types.KeyWith (fun e => (Rule.ofPair? e).any (·.matches T)) k := by
  obtain ⟨_, -, ht⟩ := took_of_policy h
  simp only [Covers, Entries.KeyWith, Option.any_eq_true, Rule.ofPair?_eq_some_iff]
  constructor
  · rintro ⟨hkey, hw, hm⟩
    obtain ⟨v, hv⟩ := Option.ne_none_iff_exists'.mp hkey
    obtain ⟨q, hq⟩ := Option.ne_none_iff_exists'.mp (ht.reads _ (a.types.mem_toList_iff.mpr hv))
    exact ⟨v, hv, ⟨k, q⟩, ⟨hw, q, hq, rfl⟩, hm⟩
  · rintro ⟨v, hv, r, ⟨hw, q, hq, rfl⟩, hm⟩
    exact ⟨by simp [hv], hw, hm⟩

/-- The policy of a section gives a type what the section says. -/
theorem decides_resolve (h : a.policy = .ok p) (T : String) : a.Decides T (p.resolve T) := by
  obtain ⟨global, hglobal, ht⟩ := took_of_policy h
  rw [Policy.resolve, lookup_types h]
  -- The cases of the resolution: an own entry, then a rule that matches, then the default.
  cases hown : a.ownValue? T with
  | some v =>
    have hv : a.types.get? T = some v := by
      rw [ownValue?] at hown
      split at hown
      · cases hown
      · exact hown
    obtain ⟨q, hq⟩ := Option.ne_none_iff_exists'.mp (ht.reads _ (a.types.mem_toList_iff.mpr hv))
    rw [Option.bind_some, hq]
    exact .own hown hq
  | none =>
    rw [Option.bind_none, ht.rules, List.nil_append, List.find?_filterMap]
    -- The first rule that matches belongs to the first key that covers the type.
    have hcovers : a.Covers T = a.types.KeyWith fun e => (Rule.ofPair? e).any (·.matches T) :=
      funext fun k => propext (covers_iff h T k)
    cases hfind : a.types.toList.find? fun e => (Rule.ofPair? e).any (·.matches T) with
    | none =>
      refine .global hown (fun k hk => ?_) (ht.global ▸ hglobal)
      obtain ⟨v, hv, hm⟩ := (covers_iff h T k).mp hk
      exact List.find?_eq_none.mp hfind _ (a.types.mem_toList_iff.mpr hv) hm
    | some e =>
      obtain ⟨k, v⟩ := e
      obtain ⟨hv, hk⟩ := (a.types.find?_eq_some_iff _).mp hfind
      rw [← hcovers] at hk
      cases hr : Rule.ofPair? (k, v) with
      | none =>
        have hm := List.find?_some hfind
        simp [hr] at hm
      | some r =>
        obtain ⟨-, q, hq, rfl⟩ := Rule.ofPair?_eq_some_iff.mp hr
        rw [Option.bind_some, hr]
        exact .rule hown hk hv hq

end AccessConfig

/-! ### The laws of a configuration -/

/-- What the policy of a configuration is. -/
structure PolicyLaws (c : Config) : Prop where
  /-- There is a policy iff every value of the section reads as a permission. -/
  accepted : (∃ p, c.access.policy = .ok p) ↔
    Permission.parse c.access.global ≠ none ∧
      ∀ k v, c.access.types.get? k = some v → Permission.parse v ≠ none
  /-- Otherwise the error names the default, or else the first key with a value that does not read. -/
  refused : ∀ e, c.access.policy = .error e ↔ c.access.Refused e
  /-- The policy gives every type what the section says. -/
  resolved : ∀ p, c.access.policy = .ok p → ∀ T q, p.resolve T = q ↔ c.access.Decides T q
  /-- A member may be opened up iff it is public or what the section says covers its kind. -/
  allowed : ∀ p, c.access.policy = .ok p → ∀ T kind visibility,
    p.allows T kind visibility = true ↔
      visibility = .pub ∨ ∃ q, c.access.Decides T q ∧ q.grants kind = true
  /-- Of the entries put in, only the last under each key counts, whenever it was put in. -/
  latest : ∀ es, (∀ k, es.reverse.lookup k = c.access.types.get? k) →
    { c.access with types := .ofList es }.policy = c.access.policy
  /-- The entries may be put in in any order. -/
  reordered : ∀ es, es.Perm c.access.types.toList →
    { c.access with types := .ofList es }.policy = c.access.policy

/-- The laws of a configuration hold. -/
theorem Config.policyLaws (c : Config) : PolicyLaws c := by
  have hresolved : ∀ p, c.access.policy = .ok p → ∀ T q, p.resolve T = q ↔ c.access.Decides T q := by
    intro p hp T q
    have hd := AccessConfig.decides_resolve hp T
    exact ⟨fun heq => heq ▸ hd, hd.unique⟩
  refine ⟨?_, AccessConfig.policy_eq_error_iff, hresolved, ?_, ?_, ?_⟩
  · constructor
    · rintro ⟨p, hp⟩
      obtain ⟨global, hglobal, ht⟩ := AccessConfig.took_of_policy hp
      refine ⟨by simp [hglobal], fun k v hv => ?_⟩
      exact ht.reads _ (c.access.types.mem_toList_iff.mpr hv)
    · rintro ⟨hglobal, hreads⟩
      cases hp : c.access.policy with
      | ok p => exact ⟨p, rfl⟩
      | error e =>
        cases (AccessConfig.policy_eq_error_iff e).mp hp with
        | global hbad => exact absurd hbad hglobal
        | entry _ hk hv =>
          obtain ⟨v, hv, hbad⟩ := hk.holds
          exact absurd hbad (hreads _ _ hv)
  · intro p hp T kind visibility
    rw [Policy.allows, Permission.allows_eq_true_iff]
    apply or_congr_right
    constructor
    · intro hgrants
      exact ⟨_, AccessConfig.decides_resolve hp T, hgrants⟩
    · rintro ⟨q, hq, hgrants⟩
      rw [(hresolved p hp T q).mpr hq]
      exact hgrants
  · intro es hes
    have heq : Entries.ofList es = c.access.types := by
      apply Entries.ext_get?
      intro k
      rw [Entries.get?_ofList, hes]
    rw [heq]
  · intro es hes
    rw [Entries.ofList_of_perm _ hes]

end Interop
