import Interop.Proofs.Precedence

namespace Interop

/-!
# Which of several wildcards decides

A type without an entry of its own may be matched by wildcards of several packages. One would have the
most specific of them decide; but rules are kept in the order of their keys, where a star comes before
every letter and before the dot.

* `Pattern.depth` — how much of a name a wildcard fixes.
* `AccessConfig.MostSpecific`, `AccessConfig.Overrides` — the wildcards with the longest package among
  those that cover a type; a broader wildcard whose key comes before theirs.
* `AccessConfig.lt_of_depth_lt` — of two wildcards that cover a type the next character of the name tells
  which key comes first.
* `AccessConfig.specificityLaws` — the most specific wildcard decides iff none overrides it; for names
  without characters before the star it is the broadest that decides.

Wildcards that cover one type all begin with the same name, up to the length of their packages. So two
of them, of different length, agree up to the end of the shorter package, and there one has its star
where the other goes on with the name. A star comes before nearly everything that may stand in a name,
hence the broader wildcard usually comes first, and what was written about the narrower package is
never asked. The exceptions are names with a character that comes before the star, and they are
exceptions at that one place only; so the condition is about the character behind the broader package.
-/

/-- How much of a name a wildcard fixes: its package with the dot behind it. -/
def Pattern.depth : Pattern → Nat
  | any | exact _ => 0
  | subtree package | below package => package.length + 1

/-- How much of a name the wildcard under a key fixes. -/
def keyDepth (key : String) : Nat :=
  (Pattern.ofString key).depth

/-- The characters of a name, with a dot behind them as behind a package. -/
def dotted (T : String) : List Char :=
  T.toList ++ ['.']

/-- Behind a package there is a dot in the names that it matches, if one is put at their end. -/
theorem take_dotted {T : String} {package rest : List Char} (h : dotted T = package ++ '.' :: rest) :
    package.length + 1 ≤ (dotted T).length ∧
      (dotted T).take (package.length + 1) = package ++ ['.'] := by
  rw [h, List.append_cons]
  exact ⟨by simp, List.take_left' (by simp)⟩

/-- A wildcard that matches a name is a beginning of the name with one star or two behind it. -/
theorem toList_of_admits {T key : String} (hT : isWildcard T = false) (hkey : isWildcard key = true)
    (h : (Pattern.ofString key).admits T.toList = true) :
    keyDepth key ≤ (dotted T).length ∧
      ∃ stars, (stars = ['*'] ∨ stars = ['*', '*']) ∧
        key.toList = (dotted T).take (keyDepth key) ++ stars := by
  have hreads := Pattern.reads_ofString key
  unfold keyDepth
  generalize Pattern.ofString key = pattern at h hreads
  cases hreads with
  | any hkey =>
    refine ⟨Nat.zero_le _, key.toList, ?_, by simp [Pattern.depth]⟩
    rcases hkey with rfl | rfl
    · exact .inl rfl
    · exact .inr rfl
  | @subtree package hkey =>
    -- The name may be the package itself: there the dot that was put at its end is needed.
    obtain ⟨rest, hrest⟩ : ∃ rest, dotted T = package ++ '.' :: rest := by
      rcases Pattern.admits_subtree_iff.mp h with hname | ⟨rest, hname⟩
      · exact ⟨[], by rw [dotted, hname]⟩
      · exact ⟨rest ++ ['.'], by simp [dotted, hname]⟩
    obtain ⟨hle, htake⟩ := take_dotted hrest
    exact ⟨hle, ['*', '*'], .inr rfl, by simp [Pattern.depth, htake, hkey]⟩
  | @below package hkey =>
    obtain ⟨c, rest, hname⟩ := Pattern.admits_below_iff.mp h
    have hrest : dotted T = package ++ '.' :: (c :: rest ++ ['.']) := by simp [dotted, hname]
    obtain ⟨hle, htake⟩ := take_dotted hrest
    exact ⟨hle, ['*'], .inl rfl, by simp [Pattern.depth, htake, hkey]⟩
  | exact =>
    -- The name would be the key itself, and hold its star.
    have hname : key.toList = T.toList := by simpa [Pattern.admits] using h
    rw [isWildcard, hname] at hkey
    rw [isWildcard, hkey] at hT
    cases hT

/-- No key with the property comes before the first. -/
theorem FirstKey.not_lt {P : String → Prop} {k k' : String} (h : FirstKey P k) (hk' : P k') :
    ¬ k' < k :=
  fun hlt => h.least k' hk' ((lt_iff_bytes_lt ..).mp hlt)

namespace AccessConfig

/-- The wildcard covers the type, and no wildcard with a longer package does. -/
structure MostSpecific (a : AccessConfig) (T k : String) : Prop where
  covers : a.Covers T k
  longest : ∀ k', a.Covers T k' → keyDepth k' ≤ keyDepth k

/-- The wildcard covers the type, is broader than others which do, and its key comes before theirs:
    they go on with a character of the name that comes after the star. -/
structure Overrides (a : AccessConfig) (T k : String) : Prop where
  covers : a.Covers T k
  broader : ¬ a.MostSpecific T k
  next : ∃ c, (dotted T)[keyDepth k]? = some c ∧ '*' < c

/-- The entry under the key grants the permission. -/
def Grants (a : AccessConfig) (k : String) (q : Permission) : Prop :=
  ∃ v, a.types.get? k = some v ∧ Permission.parse v = some q

variable {a : AccessConfig} {T : String}

/-- Of two wildcards that cover a type, the next character of the name behind the shorter package is
    in the key of the longer one where the other has its star. -/
theorem lt_of_depth_lt (hT : isWildcard T = false) {k k' : String} (hk : a.Covers T k)
    (hk' : a.Covers T k') (hlt : keyDepth k < keyDepth k') :
    ∃ c, (dotted T)[keyDepth k]? = some c ∧ c ≠ '*' ∧ ('*' < c → k < k') ∧ (c < '*' → k' < k) := by
  obtain ⟨-, stars, hstars, hlist⟩ := toList_of_admits hT hk.2.1 hk.2.2
  obtain ⟨hle, stars', -, hlist'⟩ := toList_of_admits hT hk'.2.1 hk'.2.2
  have hbound : keyDepth k < (dotted T).length := by omega
  -- Both keys begin with what the shorter package fixes of the name; there one has its star, and the
  -- other goes on with the name.
  obtain ⟨star, hstar⟩ : ∃ star, stars = '*' :: star := by
    rcases hstars with h | h <;> exact ⟨_, h⟩
  obtain ⟨rest, hrest⟩ : ∃ rest, (dotted T).take (keyDepth k') =
      (dotted T).take (keyDepth k) ++ (dotted T)[keyDepth k] :: rest := by
    obtain ⟨n, hn⟩ := Nat.exists_eq_add_of_lt hlt
    rw [hn, Nat.add_assoc, List.take_add, List.drop_eq_getElem_cons hbound]
    exact ⟨_, rfl⟩
  refine ⟨(dotted T)[keyDepth k], List.getElem?_eq_getElem hbound, ?_, fun hc => ?_, fun hc => ?_⟩
  · intro heq
    have hmem : '*' ∈ dotted T := heq ▸ List.getElem_mem hbound
    have hstar : '*' ∈ T.toList := by simpa [dotted] using hmem
    simp [isWildcard, hstar] at hT
  · rw [String.lt_iff, hlist, hlist', hrest, hstar, List.append_assoc, List.cons_append]
    exact List.append_left_lt (List.cons_lt_cons_iff.mpr (.inl hc))
  · rw [String.lt_iff, hlist, hlist', hrest, hstar, List.append_assoc, List.cons_append]
    exact List.append_left_lt (List.cons_lt_cons_iff.mpr (.inl hc))

/-- The first of the wildcards that cover a type is a most specific one, or it overrides those. -/
theorem mostSpecific_or_overrides (hT : isWildcard T = false) {k : String}
    (hk : FirstKey (a.Covers T) k) : a.MostSpecific T k ∨ a.Overrides T k := by
  by_cases hs : a.MostSpecific T k
  · exact .inl hs
  · obtain ⟨k', hk', hlt⟩ : ∃ k', a.Covers T k' ∧ keyDepth k < keyDepth k' := by
      apply Classical.byContradiction
      intro hno
      exact hs ⟨hk.holds, fun k' hk' => Nat.not_lt.mp fun hlt => hno ⟨k', hk', hlt⟩⟩
    obtain ⟨c, hc, hne, -, hbefore⟩ := lt_of_depth_lt hT hk.holds hk' hlt
    -- A character before the star would put the longer key first.
    have hstar : '*' < c := by
      apply Char.not_le.mp
      intro hle
      exact hk.not_lt hk' (hbefore (Std.lt_of_le_of_ne hle hne))
    exact .inr ⟨hk.holds, hs, c, hc, hstar⟩

/-- If the first of the wildcards that cover a type is a most specific one, none overrides those. -/
theorem not_overrides (hT : isWildcard T = false) {k : String} (hk : FirstKey (a.Covers T) k)
    (hs : a.MostSpecific T k) (k' : String) : ¬ a.Overrides T k' := by
  rintro ⟨hk', hbroad, c, hc, hstar⟩
  have hlt : keyDepth k' < keyDepth k := by
    apply Nat.not_le.mp
    intro hle
    exact hbroad ⟨hk', fun k'' hk'' => Nat.le_trans (hs.longest k'' hk'') hle⟩
  obtain ⟨c', hc', -, hbefore, -⟩ := lt_of_depth_lt hT hk' hk.holds hlt
  obtain rfl := Option.some.inj (hc.symm.trans hc')
  exact hk.not_lt hk' (hbefore hstar)

/-- If all characters of a name come after the star, then the first of the wildcards that cover it has
    no longer package than any other. -/
theorem depth_le_of_firstKey (hT : ∀ c ∈ T.toList, '*' < c) {k k' : String}
    (hk : FirstKey (a.Covers T) k) (hk' : a.Covers T k') : keyDepth k ≤ keyDepth k' := by
  have hfree : isWildcard T = false := by
    rw [isWildcard, List.contains_eq_mem, decide_eq_false_iff_not]
    exact fun hmem => absurd (hT _ hmem) (by decide)
  apply Nat.not_lt.mp
  intro hlt
  obtain ⟨c, hc, -, hbefore, -⟩ := lt_of_depth_lt hfree hk' hk.holds hlt
  have hstar : '*' < c := by
    rcases List.mem_append.mp (List.mem_of_getElem? hc) with hmem | hmem
    · exact hT c hmem
    · rw [List.mem_singleton.mp hmem]
      decide
  exact hk.not_lt hk' (hbefore hstar)

/-- The first of the wildcards that cover a type without an entry of its own decides. -/
theorem exists_firstKey {p : Policy} (h : a.policy = .ok p) (hown : a.ownValue? T = none)
    (hcovered : ∃ k, a.Covers T k) :
    ∃ k, FirstKey (a.Covers T) k ∧ a.Grants k (p.resolve T) := by
  have hdecides := decides_resolve h T
  generalize p.resolve T = q at hdecides
  cases hdecides with
  | own hv => cases hown.symm.trans hv
  | rule _ hk hv hq => exact ⟨_, hk, _, hv, hq⟩
  | global _ hnone =>
    obtain ⟨k, hk⟩ := hcovered
    exact absurd hk (hnone k)

/-- Which of several wildcards decides a type. -/
structure SpecificityLaws (a : AccessConfig) (p : Policy) (T : String) : Prop where
  /-- A most specific wildcard decides, if none overrides those. -/
  kept : (∃ k, a.Covers T k) → (∀ k, ¬ a.Overrides T k) →
    ∃ k, a.MostSpecific T k ∧ a.Grants k (p.resolve T)
  /-- Otherwise a wildcard that overrides them decides. -/
  overridden : (∃ k, a.Overrides T k) → ∃ k, a.Overrides T k ∧ a.Grants k (p.resolve T)
  /-- If all characters of the name come after the star, a broadest wildcard decides. -/
  broadest : (∀ c ∈ T.toList, '*' < c) → (∃ k, a.Covers T k) →
    ∃ k, a.Covers T k ∧ (∀ k', a.Covers T k' → keyDepth k ≤ keyDepth k') ∧
      a.Grants k (p.resolve T)

/-- The laws hold for every section that reads, and every name without a star that has no entry of its
    own. -/
theorem specificityLaws {p : Policy} (h : a.policy = .ok p) (hT : isWildcard T = false)
    (hown : a.ownValue? T = none) : SpecificityLaws a p T := by
  constructor
  · intro hcovered hno
    obtain ⟨k, hk, hgrants⟩ := exists_firstKey h hown hcovered
    rcases mostSpecific_or_overrides hT hk with hs | ho
    · exact ⟨k, hs, hgrants⟩
    · exact absurd ho (hno k)
  · rintro ⟨k', ho'⟩
    obtain ⟨k, hk, hgrants⟩ := exists_firstKey h hown ⟨k', ho'.covers⟩
    rcases mostSpecific_or_overrides hT hk with hs | ho
    · exact absurd ho' (not_overrides hT hk hs k')
    · exact ⟨k, ho, hgrants⟩
  · intro hafter hcovered
    obtain ⟨k, hk, hgrants⟩ := exists_firstKey h hown hcovered
    exact ⟨k, hk.holds, fun k' => depth_le_of_firstKey hafter hk, hgrants⟩

/-- A section that opens the plugins and closes the internal ones among them. -/
def nested : AccessConfig where
  types := .ofList [("plugins.**", "ALL"), ("plugins.internal.*", "PUBLIC_ONLY")]

/-- The policy of that section. -/
def nestedPolicy : Policy where
  global := .all
  rules := [⟨"plugins.**", .all⟩, ⟨"plugins.internal.*", .publicOnly⟩]

/-- The policy has the two rules in the order of their keys. -/
theorem policy_nested : nested.policy = .ok nestedPolicy := by
  rfl

/-- The entries of the section are kept in that order. -/
theorem toList_nested :
    nested.types.toList = [("plugins.**", "ALL"), ("plugins.internal.*", "PUBLIC_ONLY")] := by
  rfl

/-- The wildcard of the internal plugins is the only most specific one that covers an internal plugin. -/
theorem mostSpecific_nested_iff (k : String) :
    nested.MostSpecific "plugins.internal.Secret" k ↔ k = "plugins.internal.*" := by
  have hinner : nested.Covers "plugins.internal.Secret" "plugins.internal.*" :=
    ⟨by decide +kernel, by rfl, by rfl⟩
  have hkeys : ∀ k', nested.Covers "plugins.internal.Secret" k' →
      k' = "plugins.**" ∨ k' = "plugins.internal.*" := by
    intro k' hk'
    obtain ⟨v, hv⟩ := Option.ne_none_iff_exists'.mp hk'.1
    have hmem := nested.types.mem_toList_iff.mpr hv
    rw [toList_nested] at hmem
    simp only [List.mem_cons, Prod.mk.injEq, List.not_mem_nil, or_false] at hmem
    exact hmem.imp And.left And.left
  constructor
  · intro hs
    rcases hkeys k hs.covers with rfl | rfl
    · exact absurd (hs.longest _ hinner) (by decide +kernel)
    · rfl
  · rintro rfl
    refine ⟨hinner, fun k' hk' => ?_⟩
    rcases hkeys k' hk' with rfl | rfl <;> decide +kernel

/-- For an internal plugin the wildcard of all plugins overrides the more specific one. -/
theorem specificityLaws_nested :
    nested.policy = .ok nestedPolicy ∧ isWildcard "plugins.internal.Secret" = false ∧
      nested.ownValue? "plugins.internal.Secret" = none ∧
      nested.Overrides "plugins.internal.Secret" "plugins.**" ∧
      SpecificityLaws nested nestedPolicy "plugins.internal.Secret" := by
  have hT : isWildcard "plugins.internal.Secret" = false := by rfl
  have hown : nested.ownValue? "plugins.internal.Secret" = none := by decide +kernel
  refine ⟨policy_nested, hT, hown, ⟨⟨by decide +kernel, by rfl, by rfl⟩, ?_, 'i', ?_, ?_⟩,
    specificityLaws policy_nested hT hown⟩
  · rw [mostSpecific_nested_iff]
    decide
  · decide +kernel
  · decide

/-- An internal plugin gets what the most specific wildcard does not grant. -/
theorem internal_opened_by_outer :
    nested.policy = .ok nestedPolicy ∧ nested.ownValue? "plugins.internal.Secret" = none ∧
      nested.MostSpecific "plugins.internal.Secret" "plugins.internal.*" ∧
      ¬ ∃ k, nested.MostSpecific "plugins.internal.Secret" k ∧
        nested.Grants k (nestedPolicy.resolve "plugins.internal.Secret") := by
  refine ⟨policy_nested, by decide +kernel, (mostSpecific_nested_iff _).mpr rfl, ?_⟩
  rintro ⟨k, hs, v, hv, hq⟩
  obtain rfl := (mostSpecific_nested_iff k).mp hs
  have hvalue : nested.types.get? "plugins.internal.*" = some "PUBLIC_ONLY" := by decide +kernel
  rw [hvalue] at hv
  obtain rfl := Option.some.inj hv
  exact absurd hq (by decide +kernel)

end AccessConfig

end Interop
