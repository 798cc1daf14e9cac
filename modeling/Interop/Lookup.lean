namespace Interop

/-!
# Look-up in lists

Several tables are lists of pairs in which setting a key drops its earlier pairs and puts a new one
in front. Others are searched for the first member that fits.

* `lookup_filter_self`, `lookup_filter_of_ne` — dropping the pairs of one key leaves that key without
  a value and every other key with the value it had.
* `mem_of_lookup`, `lookup_of_mem` — what is found is in the list, and where no key occurs twice the
  converse holds.
* `FirstWith` — the first member of a list with a property; `find?_eq_some_iff_firstWith` says that a
  search finds it.
-/

variable {α β : Type} [BEq α] [LawfulBEq α]

/-- A key whose pairs were dropped finds nothing. -/
@[simp] theorem lookup_filter_self (k : α) (l : List (α × β)) :
    (l.filter (·.1 != k)).lookup k = none := by
  simp only [List.lookup_eq_none_iff, List.mem_filter]
  rintro e ⟨-, he⟩
  simpa using Ne.symm (by simpa using he)

/-- Any other key finds what it found before. -/
theorem lookup_filter_of_ne {k k' : α} (h : k' ≠ k) (l : List (α × β)) :
    (l.filter (·.1 != k)).lookup k' = l.lookup k' := by
  induction l with
  | nil => rfl
  | cons e l ih =>
    obtain ⟨k₀, v⟩ := e
    by_cases hk : k₀ = k
    · subst hk
      simp [List.lookup_cons, beq_false_of_ne h, ih]
    · simp [List.lookup_cons, hk, ih]

/-- What a key finds is in the list under that key. -/
theorem mem_of_lookup {k : α} {v : β} {l : List (α × β)} (h : l.lookup k = some v) : (k, v) ∈ l := by
  obtain ⟨l₁, l₂, he, -⟩ := List.lookup_eq_some_iff.mp h
  rw [he]
  simp

/-- In a list with distinct keys every pair is what its key finds. -/
theorem lookup_of_mem {l : List (α × β)} (hn : (l.map (·.1)).Nodup) {k : α} {v : β}
    (h : (k, v) ∈ l) : l.lookup k = some v := by
  induction l with
  | nil => simp at h
  | cons e l ih =>
    rw [List.map_cons, List.nodup_cons] at hn
    rcases List.mem_cons.mp h with rfl | h
    · simp
    · have hk : k ≠ e.1 := by
        rintro rfl
        exact hn.1 (List.mem_map.mpr ⟨(e.1, v), h, rfl⟩)
      rw [List.lookup_cons, beq_false_of_ne hk]
      exact ih hn.2 h

/-! ### First members -/

section

variable {γ : Type} {P : γ → Prop} {l : List γ} {a b : γ}

/-- `a` is the first member of the list with the property. -/
def FirstWith (P : γ → Prop) (l : List γ) (a : γ) : Prop :=
  ∃ before after, l = before ++ a :: after ∧ P a ∧ ∀ b ∈ before, ¬ P b

/-- A first member is a member. -/
theorem FirstWith.mem (h : FirstWith P l a) : a ∈ l := by
  obtain ⟨before, after, rfl, -⟩ := h
  simp

/-- It has the property. -/
theorem FirstWith.holds (h : FirstWith P l a) : P a := by
  obtain ⟨before, after, -, hP, -⟩ := h
  exact hP

/-- A search finds the first member with the property. -/
theorem find?_eq_some_iff_firstWith {p : γ → Bool} (hp : ∀ c, p c = true ↔ P c) :
    l.find? p = some a ↔ FirstWith P l a := by
  rw [List.find?_eq_some_iff_append, FirstWith, hp]
  constructor
  · rintro ⟨ha, before, after, hl, hbefore⟩
    refine ⟨before, after, hl, ha, fun c hc => ?_⟩
    rw [← hp]
    simpa using hbefore c hc
  · rintro ⟨before, after, hl, ha, hbefore⟩
    refine ⟨ha, before, after, hl, fun c hc => ?_⟩
    have hnot := hbefore c hc
    rw [← hp] at hnot
    simpa using hnot

/-- There is only one first member. -/
theorem FirstWith.unique (h : FirstWith P l a) (h' : FirstWith P l b) : a = b := by
  classical
  have hp : ∀ c, decide (P c) = true ↔ P c := fun c => decide_eq_true_iff
  have ha := (find?_eq_some_iff_firstWith hp).mpr h
  have hb := (find?_eq_some_iff_firstWith hp).mpr h'
  exact Option.some.inj (ha.symm.trans hb)

end

end Interop
