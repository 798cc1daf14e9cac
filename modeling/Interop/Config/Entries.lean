namespace Interop

/-!
# Sorted entries

* `Entries` — a finite map from strings to strings, in ascending order of its keys.
* `Entries.insert`, `Entries.ofList`, `Entries.get?` — add or replace an entry; build a map; look up.

The order of a configuration file does not survive in its access section: entries are kept by their
keys. A list that is sorted strictly is such a map, and no two of them hold the same entries, so maps
are equal iff they are equal as lists.
-/

/-- Put `v` under `k` into a list sorted by its keys. -/
def putSorted (k v : String) : List (String × String) → List (String × String)
  | [] => [(k, v)]
  | (k', v') :: es =>
    if k < k' then (k, v) :: (k', v') :: es
    else if k = k' then (k, v) :: es
    else (k', v') :: putSorted k v es

/-- Nothing gets into the list but the new entry. -/
theorem mem_putSorted {k v : String} {es : List (String × String)} {e : String × String}
    (h : e ∈ putSorted k v es) : e = (k, v) ∨ e ∈ es := by
  induction es with
  | nil => simpa [putSorted] using h
  | cons e' es ih =>
    obtain ⟨k', v'⟩ := e'
    simp only [putSorted] at h
    split at h
    · simpa using h
    · split at h
      · rcases List.mem_cons.mp h with h | h
        · exact .inl h
        · exact .inr (List.mem_cons_of_mem _ h)
      · rcases List.mem_cons.mp h with h | h
        · exact .inr (h ▸ List.mem_cons_self)
        · exact (ih h).imp_right (List.mem_cons_of_mem _)

/-- A finite map from strings to strings. The order of the keys is that of their code points, which
    is also that of their bytes. -/
structure Entries where
  toList : List (String × String)
  sorted : toList.Pairwise (·.1 < ·.1)
deriving DecidableEq

namespace Entries

/-- The map without entries. -/
def empty : Entries := ⟨[], .nil⟩

instance : EmptyCollection Entries := ⟨empty⟩

/-- The list stays sorted, whether the key is new, replaced, or in it already. -/
theorem pairwise_putSorted {k v : String} {es : List (String × String)}
    (h : es.Pairwise (·.1 < ·.1)) : (putSorted k v es).Pairwise (·.1 < ·.1) := by
  induction es with
  | nil => simp [putSorted]
  | cons e es ih =>
    obtain ⟨k', v'⟩ := e
    rw [List.pairwise_cons] at h
    obtain ⟨hk, hes⟩ := h
    simp only [putSorted]
    split
    next hlt =>
      refine List.pairwise_cons.mpr ⟨fun e he => ?_, List.pairwise_cons.mpr ⟨hk, hes⟩⟩
      rcases List.mem_cons.mp he with rfl | he
      · exact hlt
      · exact String.lt_trans hlt (hk e he)
    next hlt =>
      split
      next heq => exact List.pairwise_cons.mpr ⟨fun e he => heq ▸ hk e he, hes⟩
      next hne =>
        refine List.pairwise_cons.mpr ⟨fun e he => ?_, ih hes⟩
        rcases mem_putSorted he with rfl | he
        · -- The key comes neither before the first one nor is it the first one, so it comes after it.
          exact Decidable.byContradiction fun h =>
            hne (String.le_antisymm (String.not_lt.mp h) (String.not_lt.mp hlt))
        · exact hk e he

/-- Put `v` under `k`, in place of what was there. -/
def insert (es : Entries) (k v : String) : Entries :=
  ⟨putSorted k v es.toList, pairwise_putSorted es.sorted⟩

/-- The map with the given entries; of two under one key the later counts. -/
def ofList (es : List (String × String)) : Entries :=
  es.foldl (fun m e => m.insert e.1 e.2) ∅

/-- The value under `k`. -/
def get? (es : Entries) (k : String) : Option String :=
  es.toList.lookup k

/-- A key finds what was put under it. -/
@[simp] theorem get?_insert_self (es : Entries) (k v : String) :
    (es.insert k v).get? k = some v := by
  simp only [get?, insert]
  induction es.toList with
  | nil => simp [putSorted]
  | cons e es ih =>
    obtain ⟨k', v'⟩ := e
    simp only [putSorted]
    split
    next => simp
    next => split <;> simp_all [List.lookup_cons, beq_false_of_ne]

/-- Any other key finds what it found before. -/
theorem get?_insert_of_ne (es : Entries) {k k' : String} (h : k' ≠ k) (v : String) :
    (es.insert k v).get? k' = es.get? k' := by
  simp only [get?, insert]
  induction es.toList with
  | nil => simp [putSorted, List.lookup_cons, beq_false_of_ne h]
  | cons e es ih =>
    obtain ⟨k', v'⟩ := e
    simp only [putSorted]
    split
    next => simp [List.lookup_cons, beq_false_of_ne h]
    next => split <;> simp_all [List.lookup_cons, beq_false_of_ne]

end Entries

end Interop
