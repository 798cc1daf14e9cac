import Interop.Lookup

namespace Interop

/-!
# Numbers from a counter

Domains, interfaces, types and instances all take their identity from a counter that only counts up.

* `Numbered f next l` — the members of `l` have numbers below the counter `next`, each its own.
* `Numbered.of_subset`, `Numbered.grow` — forgetting members, and taking the next number for a new
  one, keep it so.
* `Numbered.eq_of_map_eq` — the numbers in a list tell the list.
-/

/-- The members of `l` are numbered by `f` below `next`, each differently. -/
structure Numbered {α : Type} (f : α → Nat) (next : Nat) (l : List α) : Prop where
  below : ∀ a ∈ l, f a < next
  unique : ∀ a ∈ l, ∀ b ∈ l, f a = f b → a = b

namespace Numbered

variable {α : Type} {f : α → Nat} {next : Nat} {l l' : List α}

/-- Nothing is numbered so far. -/
theorem nil : Numbered f next [] :=
  ⟨by simp, by simp⟩

/-- The counter may go up, and members may be forgotten. -/
theorem of_subset (h : Numbered f next l) (hsub : ∀ a ∈ l', a ∈ l) {next' : Nat}
    (hle : next ≤ next') : Numbered f next' l' := by
  constructor
  · intro a ha
    have := h.below a (hsub a ha)
    omega
  · intro a ha b hb
    exact h.unique a (hsub a ha) b (hsub b hb)

/-- A new member takes the next number. -/
theorem grow (h : Numbered f next l) {new : α} (hnew : f new = next)
    (hsub : ∀ a ∈ l', a = new ∨ a ∈ l) : Numbered f (next + 1) l' := by
  constructor
  · intro a ha
    rcases hsub a ha with rfl | ha
    · omega
    · have := h.below a ha
      omega
  · intro a ha b hb heq
    rcases hsub a ha with rfl | ha <;> rcases hsub b hb with rfl | hb
    · rfl
    · have := h.below b hb
      omega
    · have := h.below a ha
      omega
    · exact h.unique a ha b hb heq

/-- A new member at the head of the list takes the next number. -/
theorem cons (h : Numbered f next l) {new : α} (hnew : f new = next) :
    Numbered f (next + 1) (new :: l) :=
  h.grow hnew fun _ => List.mem_cons.mp

/-- Lists of members with equal numbers are equal. -/
theorem eq_of_map_eq (h : Numbered f next l) {xs ys : List α} (hxs : ∀ a ∈ xs, a ∈ l)
    (hys : ∀ a ∈ ys, a ∈ l) (heq : xs.map f = ys.map f) : xs = ys := by
  -- On the first list; equal numbers make the heads equal, and the tails have numbers of the same
  -- counter.
  induction xs generalizing ys with
  | nil => simpa using heq.symm
  | cons x xs ih =>
    cases ys with
    | nil => simp at heq
    | cons y ys =>
      rw [List.map_cons, List.map_cons, List.cons.injEq] at heq
      have hxy : x = y := h.unique x (hxs x (by simp)) y (hys y (by simp)) heq.1
      have htail := ih (fun a ha => hxs a (by simp [ha])) (fun a ha => hys a (by simp [ha])) heq.2
      rw [hxy, htail]

end Numbered

end Interop
