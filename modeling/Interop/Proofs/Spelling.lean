import Mathlib.Data.List.TakeWhile
import Interop.Text.Blank

namespace Interop

/-!
# Spellings of a word

A word in a setting may have blanks around it and its letters in any case. It is read by trimming the blanks
and writing the rest in upper case.

* `Text.trim_pad`, `Text.exists_pad`, `Text.trim_upper` — trimming takes blanks away at both ends and nothing
  else, and letters may be written in upper case before or after it.
* `Spells` — a text is a word with blanks around it, its letters in any case; `spells_iff` says that this is
  what the reader sees.
-/

namespace Text

/-- Blanks and nothing else. -/
def Blanks (cs : List Char) : Prop :=
  ∀ c ∈ cs, isBlank c = true

variable {l r : List Char}

/-- No characters are blanks. -/
theorem Blanks.nil : Blanks [] := by
  simp [Blanks]

/-- Blanks stay blanks from the other end. -/
theorem Blanks.reverse (h : Blanks l) : Blanks l.reverse :=
  fun c hc => h c (List.mem_reverse.mp hc)

/-- What stands in front of the first character that is no blank are blanks. -/
theorem blanks_takeWhile (cs : List Char) : Blanks (cs.takeWhile isBlank) :=
  fun _ hc => List.mem_takeWhile_imp hc

/-! ### Trimming -/

/-- Blanks around a text make no difference once it is trimmed. -/
theorem trim_pad (hl : Blanks l) (hr : Blanks r) (cs : List Char) :
    trim (l ++ cs ++ r) = trim cs := by
  rw [trim, trim, List.append_assoc, List.dropWhile_append_of_pos hl, List.dropWhile_append]
  split
  next hnone =>
    -- The text is all blanks, and nothing is left of it nor of the blanks behind it.
    rw [List.isEmpty_iff.mp hnone, List.dropWhile_eq_nil_iff.mpr hr]
  next => rw [List.reverse_append, List.dropWhile_append_of_pos hr.reverse]

/-- A text is what is left of it by trimming, with blanks around. -/
theorem exists_pad (cs : List Char) : ∃ l r, cs = l ++ trim cs ++ r ∧ Blanks l ∧ Blanks r := by
  refine ⟨cs.takeWhile isBlank, ((cs.dropWhile isBlank).reverse.takeWhile isBlank).reverse, ?_,
    blanks_takeWhile _, (blanks_takeWhile _).reverse⟩
  rw [trim, List.append_assoc, ← List.reverse_append, List.takeWhile_append_dropWhile,
    List.reverse_reverse, List.takeWhile_append_dropWhile]

/-- A text without blanks is left as it is. -/
theorem trim_eq_self {cs : List Char} (h : ∀ c ∈ cs, isBlank c = false) : trim cs = cs := by
  have hkeep : ∀ ds : List Char, (∀ c ∈ ds, isBlank c = false) → ds.dropWhile isBlank = ds := by
    intro ds hds
    cases ds with
    | nil => rfl
    | cons d ds => rw [List.dropWhile_cons_of_neg (by simp [hds d])]
  rw [trim, hkeep cs h, hkeep _ fun c hc => h c (List.mem_reverse.mp hc), List.reverse_reverse]

/-! ### Upper case -/

/-- A character is in upper case already, or it is one of the small letters, which stand 32 places behind
    the capital ones. -/
theorem toUpper_cases (c : Char) :
    c.toUpper = c ∨ 97 ≤ c.toNat ∧ c.toNat ≤ 122 ∧ c.toUpper.toNat + 32 = c.toNat := by
  unfold Char.toUpper
  split
  next h =>
    have hlow : 97 ≤ c.val.toNat := UInt32.le_iff_toNat_le.mp h.1
    have hhigh : c.val.toNat ≤ 122 := UInt32.le_iff_toNat_le.mp h.2
    have hshift : ('A'.val - 'a'.val).toNat = 4294967264 := by decide
    refine .inr ⟨hlow, hhigh, ?_⟩
    show (c.val + ('A'.val - 'a'.val)).toNat + 32 = c.val.toNat
    rw [UInt32.toNat_add, hshift]
    omega
  next => exact .inl rfl

/-- A letter is no blank, in either case. -/
@[simp] theorem isBlank_toUpper (c : Char) : isBlank c.toUpper = isBlank c := by
  -- From 64 to 127 there is no blank, and both cases of a letter are there.
  have hletter : ∀ d : Char, 64 ≤ d.toNat → d.toNat < 128 → isBlank d = false := by
    intro d hd hd'
    simp only [isBlank, inRanges, blankRanges, List.any_cons, List.any_nil, Bool.or_false,
      Bool.or_eq_false_iff, Bool.and_eq_false_iff, decide_eq_false_iff_not]
    omega
  rcases toUpper_cases c with h | ⟨hlow, hhigh, hupper⟩
  · rw [h]
  · rw [hletter c (by omega) (by omega), hletter c.toUpper (by omega) (by omega)]

/-- The letters may be written in upper case before the blanks are trimmed. -/
theorem trim_upper (cs : List Char) : trim (upper cs) = upper (trim cs) := by
  have hcomp : isBlank ∘ Char.toUpper = isBlank := funext isBlank_toUpper
  simp only [trim, upper, List.dropWhile_map, hcomp, ← List.map_reverse]

end Text

/-! ### Words -/

open Text

/-- The text is the word with blanks around it, its letters in any case. -/
def Spells (text word : String) : Prop :=
  ∃ l core r, text.toList = l ++ core ++ r ∧ Blanks l ∧ Blanks r ∧ upper core = word.toList

/-- The second text is the first with blanks around it. -/
def Padded (text text' : String) : Prop :=
  ∃ l r, text'.toList = l ++ text.toList ++ r ∧ Blanks l ∧ Blanks r

/-- A text spells a word without blanks iff trimming it and writing it in upper case gives the word. -/
theorem spells_iff {text word : String} (hword : ∀ c ∈ word.toList, isBlank c = false) :
    Spells text word ↔ upper (trim text.toList) = word.toList := by
  constructor
  · rintro ⟨l, core, r, htext, hl, hr, hcore⟩
    have hsolid : ∀ c ∈ core, isBlank c = false := by
      intro c hc
      rw [← isBlank_toUpper]
      exact hword _ (hcore ▸ List.mem_map_of_mem hc)
    rw [htext, trim_pad hl hr, trim_eq_self hsolid, hcore]
  · intro h
    obtain ⟨l, r, htext, hl, hr⟩ := exists_pad text.toList
    exact ⟨l, _, r, htext, hl, hr, h⟩

end Interop
