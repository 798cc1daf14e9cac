import Interop.Proofs.Packages

namespace Interop

/-!
# Where the star of a key may stand

Every key with a star becomes a rule, but rules know a star only behind a package. Elsewhere it is a
character like any other, and no type has it in its name.

* `Placed` — a key with its stars where rules know them; `exists_matches_iff` says that these are the keys
  whose rules match some name without a star.
* `AccessConfig.AgreeOff` — two sections that differ under one key at most.
* `AccessConfig.placementLaws` — a key with a star becomes one rule; that rule matches a name without a star
  iff the key is placed, and what stands under a key that is not makes no difference for any such name.

A key becomes a rule if it has a star anywhere, and a rule gives a star its meaning only where a
pattern has it. What falls between the two is a key whose rule compares a star as a character; a name
of a type has none, so the rule matches nothing. That a rule matches some name at all is then the same
as that its key has one of the forms of a pattern, with a package without a star. For the effect on a
policy two sections are compared that differ under one key only: where the rule of that key matches
nothing, neither the search for a rule nor the search for an entry can tell them apart.
-/

/-- The key stands for every name, or for a package whose own name has no star. -/
inductive Placed (key : String) : Prop
  | any (h : key = "*" ∨ key = "**")
  | package {P : String} (hP : isWildcard P = false) (h : key = P ++ ".*" ∨ key = P ++ ".**")

/-- A key without a star is no wildcard. -/
theorem isWildcard_eq_false_iff {T : String} : isWildcard T = false ↔ '*' ∉ T.toList := by
  simp [isWildcard]

/-- A key with a star is placed if its rule matches a name without one. -/
theorem placed_of_matches {key T : String} {q : Permission} (hkey : isWildcard key = true)
    (hT : isWildcard T = false) (h : (Rule.mk key q).matches T = true) : Placed key := by
  rw [isWildcard_eq_false_iff] at hT
  -- The package of a pattern is part of the names that it matches.
  have hpackage : ∀ {package rest : List Char}, T.toList = package ++ rest →
      isWildcard (.ofList package) = false := by
    intro package rest hname
    rw [isWildcard_eq_false_iff, String.toList_ofList]
    intro hmem
    exact hT (hname ▸ List.mem_append_left _ hmem)
  rw [Rule.matches] at h
  have hreads := Pattern.reads_ofString key
  generalize Pattern.ofString key = pattern at h hreads
  cases hreads with
  | any hany => exact .any hany
  | @subtree package hends =>
    have hname : ∃ rest, T.toList = package ++ rest := by
      rcases Pattern.admits_subtree_iff.mp h with hname | ⟨rest, hname⟩
      · exact ⟨[], by simpa using hname⟩
      · exact ⟨_, hname⟩
    obtain ⟨rest, hname⟩ := hname
    refine .package (hpackage hname) (.inr (String.toList_inj.mp ?_))
    simpa using hends
  | @below package hends =>
    obtain ⟨c, rest, hname⟩ := Pattern.admits_below_iff.mp h
    refine .package (hpackage hname) (.inl (String.toList_inj.mp ?_))
    simpa using hends
  -- A rule that compares the key as it is matches a name with a star only.
  | exact =>
    have hname : key.toList = T.toList := by simpa [Pattern.admits] using h
    rw [isWildcard, hname] at hkey
    simp [hT] at hkey

/-- The rule of a placed key matches some name without a star. -/
theorem Placed.exists_matches {key : String} (h : Placed key) (q : Permission) :
    ∃ T, isWildcard T = false ∧ (Rule.mk key q).matches T = true := by
  cases h with
  | any h =>
    refine ⟨"", rfl, ?_⟩
    rcases h with rfl | rfl <;> rfl
  | @package P hP h =>
    rw [isWildcard_eq_false_iff] at hP
    rcases h with rfl | rfl
    · refine ⟨P ++ ".x", by simpa [isWildcard_eq_false_iff] using hP, ?_⟩
      exact Rule.matches_below_iff.mpr ⟨'x', [], by simp [dotted]⟩
    · exact ⟨P, isWildcard_eq_false_iff.mpr hP, Rule.matches_subtree_iff.mpr (.refl P)⟩

/-- The rule of a key with a star matches a name without one iff the key is placed. -/
theorem exists_matches_iff {key : String} (hkey : isWildcard key = true) (q : Permission) :
    (∃ T, isWildcard T = false ∧ (Rule.mk key q).matches T = true) ↔ Placed key :=
  ⟨fun ⟨_, hT, h⟩ => placed_of_matches hkey hT h, fun h => h.exists_matches q⟩

namespace AccessConfig

/-- The sections have one default, and the same entries but for that of one key. -/
structure AgreeOff (key : String) (a b : AccessConfig) : Prop where
  global : b.global = a.global
  types : ∀ k, k ≠ key → b.types.get? k = a.types.get? k

variable {a b : AccessConfig} {key T : String} {q : Permission}

/-- What one section says about a name the other says too, if the name has no star and the rule of the
    key in which they differ does not match it. -/
theorem Decides.of_agreeOff (h : a.AgreeOff key b) (hkey : isWildcard key = true)
    (hT : isWildcard T = false) (hno : (Pattern.ofString key).admits T.toList = false)
    (hq : b.Decides T q) : a.Decides T q := by
  have hown : a.ownValue? T = b.ownValue? T := by
    have hne : T ≠ key := by
      rintro rfl
      cases hT.symm.trans hkey
    simp only [ownValue?, h.types T hne]
  have hcovers : a.Covers T = b.Covers T := by
    funext k
    by_cases hk : k = key
    · subst hk
      simp [Covers, hno]
    · simp only [Covers, h.types k hk]
  have hvalue : ∀ {k v}, b.Covers T k → b.types.get? k = some v → a.types.get? k = some v := by
    intro k v hk hv
    have hne : k ≠ key := by
      rintro rfl
      cases hk.2.2.symm.trans hno
    rw [← h.types k hne]
    exact hv
  -- Both sections have the same entry for the name and the same keys that cover it, so the same case
  -- holds.
  cases hq with
  | own hv hq => exact .own (hown.trans hv) hq
  | rule hunset hk hv hq => exact .rule (hown.trans hunset) (hcovers ▸ hk) (hvalue hk.holds hv) hq
  | global hunset hnone hq => exact .global (hown.trans hunset) (hcovers ▸ hnone) (h.global ▸ hq)

/-- What a key with a star comes to in the policy of a section. -/
structure PlacementLaws (a : AccessConfig) (p : Policy) (key value : String) : Prop where
  /-- The key becomes one rule, which has the permission that stands under it. -/
  rule : ∃ q, Permission.parse value = some q ∧ ∀ r, r ∈ p.rules ∧ r.pattern = key ↔ r = ⟨key, q⟩
  /-- The rule matches some name without a star iff the key is placed. -/
  live : (∃ r ∈ p.rules, r.pattern = key ∧ ∃ T, isWildcard T = false ∧ r.matches T = true) ↔
    Placed key
  /-- If it is not, then every name without a star has the permission that it has under any other value of
      the key, or without it. -/
  idle : ¬ Placed key → ∀ b p', a.AgreeOff key b → b.policy = .ok p' →
    ∀ T, isWildcard T = false → p'.resolve T = p.resolve T

/-- A key with a star has one rule in the policy, with the permission that stands under the key. -/
theorem mem_rules_iff {p : Policy} {value : String} (h : a.policy = .ok p)
    (hvalue : a.types.get? key = some value) (hkey : isWildcard key = true)
    (hq : Permission.parse value = some q) {r : Rule} :
    r ∈ p.rules ∧ r.pattern = key ↔ r = ⟨key, q⟩ := by
  obtain ⟨_, -, ht⟩ := took_of_policy h
  have hmem := a.types.mem_toList_iff.mpr hvalue
  rw [ht.rules, List.nil_append, List.mem_filterMap]
  constructor
  · rintro ⟨⟨⟨k, v⟩, hmem', hr⟩, rfl⟩
    obtain ⟨-, q', hq', rfl⟩ := Rule.ofPair?_eq_some_iff.mp hr
    obtain rfl := Option.some.inj ((a.types.mem_toList_iff.mp hmem').symm.trans hvalue)
    rw [Option.some.inj (hq'.symm.trans hq)]
  · rintro rfl
    exact ⟨⟨_, hmem, Rule.ofPair?_eq_some_iff.mpr ⟨hkey, q, hq, rfl⟩⟩, rfl⟩

/-- The laws hold for every key with a star in a section that reads. -/
theorem placementLaws {p : Policy} {value : String} (h : a.policy = .ok p)
    (hvalue : a.types.get? key = some value) (hkey : isWildcard key = true) :
    PlacementLaws a p key value := by
  obtain ⟨_, -, ht⟩ := took_of_policy h
  obtain ⟨q, hq⟩ := Option.ne_none_iff_exists'.mp (ht.reads _ (a.types.mem_toList_iff.mpr hvalue))
  have hrule : ∀ r, r ∈ p.rules ∧ r.pattern = key ↔ r = ⟨key, q⟩ :=
    fun _ => mem_rules_iff h hvalue hkey hq
  refine ⟨⟨q, hq, hrule⟩, ?_, fun hplaced b p' hab hb T hT => ?_⟩
  · rw [← exists_matches_iff hkey q]
    constructor
    · rintro ⟨r, hr, hpattern, hmatches⟩
      rw [(hrule r).mp ⟨hr, hpattern⟩] at hmatches
      exact hmatches
    · intro hmatches
      obtain ⟨hmem, hpattern⟩ := (hrule ⟨key, q⟩).mpr rfl
      exact ⟨_, hmem, hpattern, hmatches⟩
  · have hno : (Pattern.ofString key).admits T.toList = false := by
      rw [← exists_matches_iff hkey q, not_exists] at hplaced
      exact eq_false_of_ne_true fun hadmits => hplaced T ⟨hT, hadmits⟩
    -- What the other section decides this one decides, and a section decides once.
    have hdecides := (decides_resolve hb T).of_agreeOff hab hkey hT hno
    exact hdecides.unique (decides_resolve h T)

/-! ### A star in front -/

/-- A section that means to close every type of the name `Secret`. -/
def secrets : AccessConfig where
  types := .ofList [("*.Secret", "PUBLIC_ONLY"), ("plugins.**", "METHODS")]

/-- The policy of that section. -/
def secretsPolicy : Policy where
  global := .all
  rules := [⟨"*.Secret", .publicOnly⟩, ⟨"plugins.**", .onlyMethods⟩]

/-- Both keys become rules, in the order of their bytes. -/
theorem policy_secrets : secrets.policy = .ok secretsPolicy := by
  rfl

/-- The star of this key stands in front, where no package is. -/
theorem not_placed_secret : ¬ Placed "*.Secret" := by
  intro h
  cases h with
  | any h => exact absurd h (by decide)
  | package hP h => rcases h with h | h <;> simpa using congrArg (·.toList.reverse) h

/-- The laws hold of the key of that section, which is not placed. -/
theorem placementLaws_secrets :
    secrets.policy = .ok secretsPolicy ∧ secrets.types.get? "*.Secret" = some "PUBLIC_ONLY" ∧
      isWildcard "*.Secret" = true ∧ ¬ Placed "*.Secret" ∧
      PlacementLaws secrets secretsPolicy "*.Secret" "PUBLIC_ONLY" := by
  have hvalue : secrets.types.get? "*.Secret" = some "PUBLIC_ONLY" := by decide +kernel
  exact ⟨policy_secrets, hvalue, rfl, not_placed_secret, placementLaws policy_secrets hvalue rfl⟩

/-- The section is accepted, its key has a star, and no name without one is matched by the rule. -/
theorem secret_not_closed :
    secrets.policy = .ok secretsPolicy ∧ secrets.types.get? "*.Secret" = some "PUBLIC_ONLY" ∧
      isWildcard "*.Secret" = true ∧ secretsPolicy.resolve "app.Secret" = .all ∧
      ¬ ∃ r ∈ secretsPolicy.rules, r.pattern = "*.Secret" ∧
        ∃ T, isWildcard T = false ∧ r.matches T = true := by
  refine ⟨policy_secrets, by decide +kernel, rfl, by decide +kernel, ?_⟩
  rintro ⟨⟨pattern, q⟩, -, rfl, hmatches⟩
  exact not_placed_secret ((exists_matches_iff rfl q).mp hmatches)

end AccessConfig

end Interop
