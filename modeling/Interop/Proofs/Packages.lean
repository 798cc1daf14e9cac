import Mathlib.Data.Set.Basic
import Interop.Proofs.Specificity

namespace Interop

/-!
# Packages

The names of types are dotted, and a wildcard speaks of a package with what lies below it. Where one
package ends is told by the dot: `pluginsX` is no part of `plugins`.

* `Inside`, `Within` — a name goes on behind a package and a dot; it is the package or goes on behind it.
* `within_iff_begins` — a package holds a name iff it is a beginning of the name, both with a dot behind
  them; hence packages form a forest (`Within.trans`, `Within.comparable`).
* `Rule.subtree`, `Rule.below`, `Rule.names` — the rules of the two wildcards of a package, and the names
  that a rule matches.
* `Rule.packageLaws` — the rules match what their packages hold, and two of a sort overlap only where one
  package holds the other; there the names of the one are names of the other.

With a dot behind it, a package holds exactly the names that it is a beginning of, if these get a dot,
too. So the relation between packages and names is the order of prefixes, and what makes it a forest
is known of prefixes: they are transitive, and two prefixes of one list are comparable. Both wildcards
are then treated alike. `Nested.of_comparable` needs to know that a smaller package has fewer names
and that a common name makes packages comparable, and it is used for either of them.
-/

/-- The name goes on behind the package and a dot. -/
def Inside (P T : String) : Prop :=
  ∃ s, T = P ++ "." ++ s

/-- The package holds the name: it is the name, or the name lies inside it. -/
def Within (P T : String) : Prop :=
  T = P ∨ Inside P T

variable {P Q T : String}

/-- A name lies inside a package iff it begins with the package and a dot. -/
theorem inside_iff_begins : Inside P T ↔ dotted P <+: T.toList := by
  constructor
  · rintro ⟨s, rfl⟩
    exact ⟨s.toList, by simp [dotted]⟩
  · rintro ⟨rest, hrest⟩
    refine ⟨.ofList rest, String.toList_inj.mp ?_⟩
    simp [← hrest, dotted]

/-- A package holds a name iff it is a beginning of the name, both with a dot behind them. -/
theorem within_iff_begins : Within P T ↔ dotted P <+: dotted T := by
  have hsame : T = P ↔ dotted P = dotted T := by
    rw [dotted, dotted, List.append_cancel_right_eq, String.toList_inj, eq_comm]
  rw [Within, inside_iff_begins, hsame]
  exact List.prefix_concat_iff.symm

/-- A package holds itself. -/
theorem Within.refl (P : String) : Within P P :=
  .inl rfl

/-- A package holds what the packages in it hold. -/
theorem Within.trans (h : Within P Q) (h' : Within Q T) : Within P T := by
  simp only [within_iff_begins] at *
  exact h.trans h'

/-- Of two packages that begin one name, one holds the other. -/
theorem comparable_of_begins {cs : List Char} (h : dotted P <+: cs) (h' : dotted Q <+: cs) :
    Within P Q ∨ Within Q P := by
  simp only [within_iff_begins]
  exact List.prefix_or_prefix_of_prefix h h'

/-- Of two packages that hold one name, one holds the other. -/
theorem Within.comparable (h : Within P T) (h' : Within Q T) : Within P Q ∨ Within Q P :=
  comparable_of_begins (within_iff_begins.mp h) (within_iff_begins.mp h')

/-! ### The wildcards of a package -/

namespace Pattern

/-- A package with a dot and two stars behind it is the wildcard of its subtree. -/
theorem ofString_subtree (P : String) : ofString (P ++ ".**") = subtree P.toList := by
  have hnot : ¬ (P ++ ".**" = "*" ∨ P ++ ".**" = "**") := by
    rintro (h | h) <;> simpa using congrArg (·.toList.length) h
  have hdrop : dropEnding? ['.', '*', '*'] (P ++ ".**").toList = some P.toList :=
    dropEnding?_eq_some_iff.mpr (by simp)
  simp only [ofString, if_neg hnot, hdrop]

/-- A package with a dot and a star behind it is the wildcard of all below it. -/
theorem ofString_below (P : String) : ofString (P ++ ".*") = below P.toList := by
  have hnot : ¬ (P ++ ".*" = "*" ∨ P ++ ".*" = "**") := by
    rintro (h | h)
    · simpa using congrArg (·.toList.length) h
    · simpa using congrArg (·.toList.reverse) h
  -- The character before the last is a dot here, and a star in the wildcard of a subtree.
  have hno : dropEnding? ['.', '*', '*'] (P ++ ".*").toList = none := by
    refine Option.eq_none_iff_forall_ne_some.mpr fun package h => ?_
    simpa using congrArg List.reverse (dropEnding?_eq_some_iff.mp h)
  have hdrop : dropEnding? ['.', '*'] (P ++ ".*").toList = some P.toList :=
    dropEnding?_eq_some_iff.mpr (by simp)
  simp only [ofString, if_neg hnot, hno, hdrop]

end Pattern

namespace Rule

/-- The rule of a package and all below it. -/
def subtree (package : String) (permission : Permission) : Rule :=
  ⟨package ++ ".**", permission⟩

/-- The rule of all below a package. -/
def below (package : String) (permission : Permission) : Rule :=
  ⟨package ++ ".*", permission⟩

/-- The names that a rule matches. -/
def names (r : Rule) : Set String :=
  {T | r.matches T = true}

variable {p q : Permission}

/-- The rule of a subtree matches what the package holds. -/
theorem matches_subtree_iff : (subtree P p).matches T = true ↔ Within P T := by
  have hinside : Inside P T ↔ ∃ rest, T.toList = P.toList ++ '.' :: rest := by
    simp [inside_iff_begins, dotted, List.IsPrefix, eq_comm]
  rw [Rule.matches, subtree, Pattern.ofString_subtree, Pattern.admits_subtree_iff, Within, hinside,
    String.toList_inj]

/-- The rule of all below a package matches what goes on behind the package and a dot, and does go on. -/
theorem matches_below_iff :
    (below P p).matches T = true ↔ ∃ c rest, T.toList = dotted P ++ c :: rest := by
  rw [Rule.matches, below, Pattern.ofString_below, Pattern.admits_below_iff]
  simp [dotted]

/-- Of two packages one of which holds the other, the names in the one are names in the other. -/
theorem subtree_subset (h : Within P Q) : (subtree Q q).names ⊆ (subtree P p).names := by
  intro T hT
  exact matches_subtree_iff.mpr (h.trans (matches_subtree_iff.mp hT))

/-- So it is with the names that lie below them. -/
theorem below_subset (h : Within P Q) : (below Q q).names ⊆ (below P p).names := by
  intro T hT
  obtain ⟨c, rest, hname⟩ := matches_below_iff.mp hT
  obtain ⟨s, hs⟩ := within_iff_begins.mp h
  -- What the larger package leaves open of the smaller one, or else the name, goes on behind it.
  apply matches_below_iff.mpr
  cases s with
  | nil => exact ⟨c, rest, by rw [hname, ← hs, List.append_nil]⟩
  | cons c' s => exact ⟨c', s ++ c :: rest, by rw [hname, ← hs, List.append_assoc, List.cons_append]⟩

/-! ### Two packages -/

/-- The names `A` of the package `P` and the names `B` of the package `Q` are nested or disjoint, and have
    a name in common iff one package holds the other. -/
structure Nested (P Q : String) (A B : Set String) : Prop where
  nested : A ⊆ B ∨ B ⊆ A ∨ A ∩ B = ∅
  overlap : (A ∩ B).Nonempty ↔ P = Q ∨ Inside P Q ∨ Inside Q P

/-- It is enough that smaller packages have fewer names, and that a common name makes packages
    comparable. -/
theorem Nested.of_comparable {A B : Set String} (hA : A.Nonempty) (hB : B.Nonempty)
    (hAB : Within Q P → A ⊆ B) (hBA : Within P Q → B ⊆ A)
    (hcommon : ∀ T ∈ A, T ∈ B → Within P Q ∨ Within Q P) : Nested P Q A B := by
  have hoverlap : (A ∩ B).Nonempty ↔ Within P Q ∨ Within Q P := by
    constructor
    · rintro ⟨T, hT, hT'⟩
      exact hcommon T hT hT'
    · rintro (h | h)
      · obtain ⟨T, hT⟩ := hB
        exact ⟨T, hBA h hT, hT⟩
      · obtain ⟨T, hT⟩ := hA
        exact ⟨T, hT, hAB h hT⟩
  constructor
  · -- With a common name one package holds the other, and its names are among the other names.
    by_cases hcommon : (A ∩ B).Nonempty
    · rcases hoverlap.mp hcommon with h | h
      · exact .inr (.inl (hBA h))
      · exact .inl (hAB h)
    · exact .inr (.inr (Set.not_nonempty_iff_eq_empty.mp hcommon))
  · rw [hoverlap, Within, Within, @eq_comm _ Q P]
    exact or_or_distrib_left.symm

/-- Two subtrees are nested or disjoint. -/
theorem nested_subtree : Nested P Q (subtree P p).names (subtree Q q).names := by
  have hself : ∀ (R : String) (r : Permission), R ∈ (subtree R r).names :=
    fun R r => matches_subtree_iff.mpr (.refl R)
  refine .of_comparable ⟨P, hself P p⟩ ⟨Q, hself Q q⟩ subtree_subset subtree_subset fun T hP hQ => ?_
  exact (matches_subtree_iff.mp hP).comparable (matches_subtree_iff.mp hQ)

/-- So is what lies below two packages. -/
theorem nested_below : Nested P Q (below P p).names (below Q q).names := by
  have hsome : ∀ (R : String) (r : Permission), R ++ ".x" ∈ (below R r).names :=
    fun R r => matches_below_iff.mpr ⟨'x', [], by simp [dotted]⟩
  refine .of_comparable ⟨_, hsome P p⟩ ⟨_, hsome Q q⟩ below_subset below_subset fun T hP hQ => ?_
  obtain ⟨c, rest, hname⟩ := matches_below_iff.mp hP
  obtain ⟨c', rest', hname'⟩ := matches_below_iff.mp hQ
  exact comparable_of_begins ⟨_, hname.symm⟩ ⟨_, hname'.symm⟩

/-- What the wildcards of the packages `P` and `Q` match. -/
structure PackageLaws (P Q : String) (p q : Permission) : Prop where
  /-- With one star: the names that go on behind the package and a dot. -/
  below : ∀ T, (below P p).matches T = true ↔ ∃ s, s ≠ "" ∧ T = P ++ "." ++ s
  /-- With two stars: the package too, and what goes on with a dot alone. -/
  subtree : ∀ T, (subtree P p).matches T = true ↔ T = P ∨ ∃ s, T = P ++ "." ++ s
  /-- A subtree contains the subtrees of the packages that it matches. -/
  trans : (Rule.subtree P p).matches Q = true →
    ∀ T, (Rule.subtree Q q).matches T = true → (Rule.subtree P p).matches T = true
  /-- Two subtrees are nested or disjoint. -/
  subtrees : Nested P Q (Rule.subtree P p).names (Rule.subtree Q q).names
  /-- So is what lies below two packages. -/
  belows : Nested P Q (Rule.below P p).names (Rule.below Q q).names

/-- The laws hold for any two packages. -/
theorem packageLaws (P Q : String) (p q : Permission) : PackageLaws P Q p q := by
  refine ⟨fun T => ?_, fun T => matches_subtree_iff, fun h T hT => ?_, nested_subtree, nested_below⟩
  · rw [matches_below_iff]
    constructor
    · rintro ⟨c, rest, hname⟩
      refine ⟨.ofList (c :: rest), by simp, String.toList_inj.mp ?_⟩
      simp [hname, dotted]
    · rintro ⟨s, hs, rfl⟩
      obtain ⟨c, rest, hlist⟩ := List.exists_cons_of_ne_nil (mt String.toList_eq_nil_iff.mp hs)
      exact ⟨c, rest, by simp [dotted, hlist]⟩
  · exact subtree_subset (matches_subtree_iff.mp h) hT

/-- A word that goes on without a dot is no part of the package, and the empty package is one like any
    other. -/
example :
    (subtree "plugins" .all).matches "pluginsX.Foo" = false ∧
      (below "plugins" .all).matches "plugins." = false ∧ (below "" .all).matches ".Foo" = true := by
  decide

end Rule

end Interop
