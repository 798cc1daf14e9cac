import Mathlib.Data.List.Induction
import Interop.Proofs.Precedence

namespace Interop

/-!
# Policies under updates

A policy is shared by the members that were reflected under it, and may be changed at any time: by exact
entries, of which the last one for a name replaces the earlier ones, and by rules, of which the first that
matches a name counts.

* `Policy.Update`, `Policy.after` — the changes, and the policy after any sequence of them.
* `Policy.LastSet`, `Policy.Resolves` — the last exact entry for a name; what a sequence of changes says about
  a name.
* `Policy.Reflects` — the invariant: what a policy holds, in terms of the changes; `Policy.Reflects.update`
  says that one more change keeps it so.
* `Policy.updateLaws` — hence what a name is resolved to after any changes, and for which names one more
  change makes a difference.

The changes form one list, in the order in which they were made, and the policy after them is a fold
of it. What counts of the list is read from two sides: an exact entry from its end, since the last one
for a name replaces the others, and a rule from its start, since the first that matches decides. Two
projections take the list apart, `pair?` for exact entries and `rule?` for rules, and the invariant
says that the policy holds one of them in its table and the other in its rules. How entries and rules
were mixed is in neither, which is why their order among each other does not count.
-/

namespace Policy

/-- A change of a policy. -/
inductive Update
  | setType (name : String) (permission : Permission)
  | addRule (rule : Rule)

namespace Update

/-- The exact entry that an update sets. -/
def pair? : Update → Option (String × Permission)
  | setType name permission => some (name, permission)
  | addRule _ => none

/-- The rule that an update adds. -/
def rule? : Update → Option Rule
  | setType .. => none
  | addRule r => some r

/-- The update adds a rule that matches the name. -/
def Covers (T : String) (u : Update) : Prop :=
  ∃ r, u = addRule r ∧ r.matches T = true

/-- The rule of an update is the one that it adds. -/
theorem rule?_eq_some_iff {u : Update} {r : Rule} : u.rule? = some r ↔ u = addRule r := by
  cases u <;> simp [rule?]

/-- The entry of an update is the one that it sets. -/
theorem pair?_eq_some_iff {u : Update} {T : String} {q : Permission} :
    u.pair? = some (T, q) ↔ u = setType T q := by
  cases u <;> simp [pair?]

end Update

/-- The policy after an update. -/
def update (p : Policy) : Update → Policy
  | .setType name permission => p.setType name permission
  | .addRule r => p.addRule r

/-- A policy that was made with the default `g`, after updates in order. -/
def after (g : Permission) (us : List Update) : Policy :=
  us.foldl update { global := g }

/-- The last update is made to the policy after all the others. -/
theorem after_concat (g : Permission) (us : List Update) (u : Update) :
    after g (us ++ [u]) = (after g us).update u := by
  rw [after, List.foldl_append]
  rfl

/-! ### What the updates say -/

/-- The last exact entry that was set for the name gives it `q`. -/
def LastSet (us : List Update) (T : String) (q : Permission) : Prop :=
  ∃ before later, us = before ++ .setType T q :: later ∧ ∀ q', .setType T q' ∉ later

/-- The permission that updates of a policy with the default `g` give a name: that of its last exact entry,
    else that of the first rule which matches it, else the default. -/
inductive Resolves (g : Permission) (us : List Update) (T : String) : Permission → Prop
  | exact {q : Permission} (h : LastSet us T q) : Resolves g us T q
  | rule {r : Rule} (hunset : ∀ q, .setType T q ∉ us) (h : FirstWith (Update.Covers T) us (.addRule r)) :
      Resolves g us T r.permission
  | global (hunset : ∀ q, .setType T q ∉ us) (hnone : ∀ u ∈ us, ¬ u.Covers T) : Resolves g us T g

variable {g : Permission} {us : List Update} {T : String} {q : Permission}

/-- One more update is the last one for the names that it sets, and changes nothing for others. -/
theorem lastSet_concat {u : Update} :
    LastSet (us ++ [u]) T q ↔ u = .setType T q ∨ (∀ q', u ≠ .setType T q') ∧ LastSet us T q := by
  constructor
  · rintro ⟨before, later, heq, hlater⟩
    -- If nothing stands behind the entry it is the new update itself; else that is the last of what
    -- stands behind.
    rcases List.eq_nil_or_concat later with rfl | ⟨later, u', rfl⟩
    · exact .inl (List.append_inj_right' heq rfl |> List.singleton_inj.mp)
    · rw [List.concat_eq_append] at heq hlater
      rw [← List.cons_append, ← List.append_assoc] at heq
      obtain ⟨hus, hu⟩ := List.append_inj' heq rfl
      obtain rfl := List.singleton_inj.mp hu
      refine .inr ⟨fun q' hq' => ?_, before, later, hus, fun q' hq' => ?_⟩
      · exact hlater q' (by simp [hq'])
      · exact hlater q' (List.mem_append_left _ hq')
  · rintro (rfl | ⟨hu, before, later, rfl, hlater⟩)
    · exact ⟨us, [], rfl, by simp⟩
    · refine ⟨before, later ++ [u], by simp, fun q' hq' => ?_⟩
      rcases List.mem_append.mp hq' with hq' | hq'
      · exact hlater q' hq'
      · exact hu q' (List.mem_singleton.mp hq').symm

/-- The last exact entry for a name is the first one from the end. -/
theorem lookup_pairs_eq_some_iff (us : List Update) (T : String) (q : Permission) :
    (us.filterMap Update.pair?).reverse.lookup T = some q ↔ LastSet us T q := by
  -- From the end of the list, where the entry is that counts.
  induction us using List.reverseRecOn with
  | nil => simp [LastSet]
  | append_singleton us u ih =>
    rw [lastSet_concat, ← ih, List.filterMap_append, List.reverse_append]
    cases u with
    | addRule r => simp [Update.pair?, List.filterMap_cons]
    | setType name permission =>
      by_cases hT : T = name
      · subst hT
        simp [Update.pair?]
      · simp [Update.pair?, List.lookup_cons, beq_false_of_ne hT, Ne.symm hT]

/-- A name finds no entry iff none was ever set for it: there is no update that removes one. -/
theorem lookup_pairs_eq_none_iff (us : List Update) (T : String) :
    (us.filterMap Update.pair?).reverse.lookup T = none ↔ ∀ q, .setType T q ∉ us := by
  simp only [List.lookup_eq_none_iff, List.mem_reverse, List.mem_filterMap]
  constructor
  · intro h q hq
    have hne := h (T, q) ⟨_, hq, rfl⟩
    simp at hne
  · rintro h ⟨name, permission⟩ ⟨u, hu, hpair⟩
    have hset := Update.pair?_eq_some_iff.mp hpair
    have hne : T ≠ name := by
      rintro rfl
      exact h permission (hset ▸ hu)
    simpa using hne

/-- A search of the added rules finds the first that matches. -/
theorem find?_rules_eq_some_iff {r : Rule} :
    (us.filterMap Update.rule?).find? (·.matches T) = some r ↔
      FirstWith (Update.Covers T) us (.addRule r) := by
  have hcovers : ∀ u : Update, u.rule?.any (·.matches T) = true ↔ u.Covers T := by
    intro u
    cases u <;> simp [Update.rule?, Update.Covers]
  rw [List.find?_filterMap, Option.bind_eq_some_iff]
  simp only [Update.rule?_eq_some_iff, exists_eq_right]
  exact find?_eq_some_iff_firstWith hcovers

/-- A search of the added rules finds none iff no update covers the name. -/
theorem find?_rules_eq_none_iff :
    (us.filterMap Update.rule?).find? (·.matches T) = none ↔ ∀ u ∈ us, ¬ u.Covers T := by
  simp only [List.find?_eq_none, List.mem_filterMap, Update.rule?_eq_some_iff]
  constructor
  · rintro h u hu ⟨r, rfl, hr⟩
    exact h r ⟨_, hu, rfl⟩ hr
  · rintro h r ⟨u, hu, rfl⟩ hr
    exact h _ hu ⟨r, rfl, hr⟩

/-! ### What a policy holds

The table of a policy drops an earlier entry when a later one is set, so it is no prefix of the
updates; it is compared by what names find in it. The rules are kept as they came.
-/

/-- The policy holds the default, all rules in the order in which they were added, and under each name the
    entry that was set last. -/
structure Reflects (g : Permission) (us : List Update) (p : Policy) : Prop where
  global : p.global = g
  rules : p.rules = us.filterMap Update.rule?
  types : ∀ T, p.types.lookup T = (us.filterMap Update.pair?).reverse.lookup T

/-- One more update keeps it so. -/
theorem Reflects.update {p : Policy} (h : Reflects g us p) (u : Update) :
    Reflects g (us ++ [u]) (p.update u) := by
  cases u with
  | addRule r =>
    refine ⟨h.global, ?_, fun T => ?_⟩
    · simp [Policy.update, addRule, h.rules, Update.rule?]
    · rw [List.filterMap_append]
      simp [Policy.update, addRule, h.types, Update.pair?, List.filterMap_cons]
  | setType name permission =>
    refine ⟨h.global, ?_, fun T => ?_⟩
    · simp [Policy.update, setType, h.rules, Update.rule?]
    · rw [Policy.update, lookup_setType, h.types]
      by_cases hT : T = name
      · simp [hT, Update.pair?]
      · simp [hT, Update.pair?, List.lookup_cons, beq_false_of_ne hT]

/-- **The invariant.** Whatever the updates were, the policy after them holds what they say. -/
theorem reflects_after (g : Permission) (us : List Update) : Reflects g us (after g us) := by
  induction us using List.reverseRecOn with
  | nil => exact ⟨rfl, rfl, fun T => rfl⟩
  | append_singleton us u ih =>
    rw [after_concat]
    exact ih.update u

namespace Reflects

variable {p : Policy} (h : Reflects g us p)
include h

/-- The exact entry that a policy holds for a name is the last one that was set for it. -/
theorem lookup_eq_some_iff : p.types.lookup T = some q ↔ LastSet us T q := by
  rw [h.types]
  exact lookup_pairs_eq_some_iff us T q

/-- A policy without an entry for a name was never given one. -/
theorem lookup_eq_none_iff : p.types.lookup T = none ↔ ∀ q, .setType T q ∉ us := by
  rw [h.types]
  exact lookup_pairs_eq_none_iff us T

/-- The rule that a policy finds for a name is the first one that was added and matches it. -/
theorem find?_eq_some_iff {r : Rule} :
    p.rules.find? (·.matches T) = some r ↔ FirstWith (Update.Covers T) us (.addRule r) := by
  rw [h.rules]
  exact find?_rules_eq_some_iff

/-- A policy that finds no rule for a name was never given one that matches. -/
theorem find?_eq_none_iff : p.rules.find? (·.matches T) = none ↔ ∀ u ∈ us, ¬ u.Covers T := by
  rw [h.rules]
  exact find?_rules_eq_none_iff

/-- A name with an exact entry has the permission of that entry. -/
theorem resolve_of_lastSet (hset : LastSet us T q) : p.resolve T = q := by
  simp [resolve, h.lookup_eq_some_iff.mpr hset]

/-- A policy that holds what the updates say resolves names as they say. -/
theorem resolve_eq_iff : p.resolve T = q ↔ Resolves g us T q := by
  constructor
  · rintro rfl
    -- The cases are those of the resolution: an entry first, then the rules, then the default.
    cases hlookup : p.types.lookup T with
    | some q =>
      have hset : LastSet us T q := h.lookup_eq_some_iff.mp hlookup
      rw [h.resolve_of_lastSet hset]
      exact .exact hset
    | none =>
      have hunset := h.lookup_eq_none_iff.mp hlookup
      cases hfind : p.rules.find? (·.matches T) with
      | some r =>
        have hresolve : p.resolve T = r.permission := by simp [resolve, hlookup, hfind]
        rw [hresolve]
        exact .rule hunset (h.find?_eq_some_iff.mp hfind)
      | none =>
        have hresolve : p.resolve T = g := by simp [resolve, hlookup, hfind, h.global]
        rw [hresolve]
        exact .global hunset (h.find?_eq_none_iff.mp hfind)
  · rintro (hset | ⟨hunset, hfirst⟩ | ⟨hunset, hnone⟩)
    · exact h.resolve_of_lastSet hset
    · simp [resolve, h.lookup_eq_none_iff.mpr hunset, h.find?_eq_some_iff.mpr hfirst]
    · simp [resolve, h.lookup_eq_none_iff.mpr hunset, h.find?_eq_none_iff.mpr hnone, h.global]

end Reflects

/-! ### One more update -/

/-- A new rule changes nothing for a name that has an exact entry or is matched by an earlier rule. -/
theorem Resolves.addRule {r : Rule} (h : Resolves g us T q) :
    Resolves g (us ++ [.addRule r]) T q ∨
      (∀ q', .setType T q' ∉ us) ∧ ∀ u ∈ us, ¬ u.Covers T := by
  have hunset' : (∀ q', .setType T q' ∉ us) → ∀ q', .setType T q' ∉ us ++ [.addRule r] := by
    intro hunset q' hq'
    rcases List.mem_append.mp hq' with hq' | hq'
    · exact hunset q' hq'
    · simp at hq'
  cases h with
  | exact h => exact .inl (.exact (lastSet_concat.mpr (.inr ⟨by simp, h⟩)))
  | @rule r₀ hunset h =>
    obtain ⟨before, later, rfl, hcovers, hbefore⟩ := h
    have hfirst : FirstWith (Update.Covers T) ((before ++ .addRule r₀ :: later) ++ [.addRule r])
        (.addRule r₀) := ⟨before, later ++ [.addRule r], by simp, hcovers, hbefore⟩
    -- The first rule that matches stays the first, since the new one comes last.
    exact .inl (.rule (hunset' hunset) hfirst)
  | global hunset hnone => exact .inr ⟨hunset, hnone⟩

/-- What the updates `us` of a policy with the default `g` come to. -/
structure UpdateLaws (g : Permission) (us : List Update) : Prop where
  /-- A name is resolved to the permission of its last exact entry, else of the first rule that matches it,
      else to the default. -/
  resolves : ∀ T q, (after g us).resolve T = q ↔ Resolves g us T q
  /-- One more exact entry makes no difference for other names. -/
  setType : ∀ name permission T, T ≠ name →
    (after g (us ++ [.setType name permission])).resolve T = (after g us).resolve T
  /-- One more rule makes a difference only for names which it matches, and which had no exact entry and
      were matched by no rule before. -/
  addRule : ∀ r T, (after g (us ++ [.addRule r])).resolve T ≠ (after g us).resolve T →
    r.matches T = true ∧ (∀ q, .setType T q ∉ us) ∧ ∀ r', .addRule r' ∈ us → r'.matches T = false
  /-- Rules do not count for a name with an exact entry, whenever they are added. -/
  exact : ∀ T q, LastSet us T q → ∀ us' : List Update,
    us'.filterMap Update.pair? = us.filterMap Update.pair? → (after g us').resolve T = q

/-- The laws hold for all updates in any order. -/
theorem updateLaws (g : Permission) (us : List Update) : UpdateLaws g us := by
  refine ⟨fun T q => (reflects_after g us).resolve_eq_iff, ?_, ?_, ?_⟩
  · intro name permission T hne
    rw [after_concat]
    exact resolve_setType_of_ne _ hne permission
  · intro r T hchanged
    have hmatches : r.matches T = true := by
      refine eq_true_of_ne_false fun hnot => hchanged ?_
      rw [after_concat]
      exact resolve_addRule_of_not_matches _ hnot
    have hbefore : Resolves g us T ((after g us).resolve T) := (reflects_after g us).resolve_eq_iff.mp rfl
    rcases hbefore.addRule (r := r) with hafter | ⟨hunset, hnone⟩
    · exact absurd ((reflects_after g _).resolve_eq_iff.mpr hafter) hchanged
    · refine ⟨hmatches, hunset, fun r' hr' => ?_⟩
      exact eq_false_of_ne_true fun hcovers => hnone _ hr' ⟨r', rfl, hcovers⟩
  · intro T q hset us' hsame
    -- The table is the same for both lists, whatever rules stand between the entries.
    have hset' : LastSet us' T q := by
      rw [← lookup_pairs_eq_some_iff, hsame, lookup_pairs_eq_some_iff]
      exact hset
    exact (reflects_after g us').resolve_of_lastSet hset'

/-- The entry counts before the earlier rule, and the earlier rule before the later and narrower one. -/
example :
    let p := after .all [.addRule ⟨"app.**", .onlyMethods⟩, .setType "app.io.File" .onlyFields,
      .addRule ⟨"app.io.*", .publicOnly⟩]
    p.resolve "app.io.File" = .onlyFields ∧ p.resolve "app.io.Pipe" = .onlyMethods ∧
      p.resolve "net.Pipe" = .all := by
  decide

end Policy

end Interop
