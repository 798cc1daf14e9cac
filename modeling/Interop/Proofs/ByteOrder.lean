namespace Interop

/-!
# Texts in the order of their bytes

A sorted map of texts compares bytes, while core's order of texts compares characters. UTF-8 was made
so that this is the same: a longer code starts with a larger byte, and codes of one length have their
digits in order.

* `bytes` — the UTF-8 bytes of a text.
* `encode_lt_encode` — the codes of two characters differ in a byte, in the order of the characters,
  before either of them ends.
* `lt_iff_bytes_lt` — texts are in the order of their bytes.
-/

/-- The UTF-8 bytes of a text. -/
def bytes (s : String) : List UInt8 :=
  s.toUTF8.data.toList

/-- The bytes of a text are the codes of its characters. -/
theorem bytes_eq (s : String) : bytes s = s.toList.flatMap String.utf8EncodeChar := by
  rw [bytes, String.toUTF8_eq_toByteArray, ← String.utf8Encode_toList, List.utf8Encode,
    List.data_toByteArray]

/-! ### One character -/

/-- The digits of a code point to the base 64 compare as the code points do. -/
theorem digits_lt {v w : Nat} (h : v < w) (hw : w < 0x110000) :
    v / 262144 % 8 < w / 262144 % 8 ∨ v / 262144 % 8 = w / 262144 % 8 ∧
      (v / 4096 % 64 < w / 4096 % 64 ∨ v / 4096 % 64 = w / 4096 % 64 ∧
        (v / 64 % 64 < w / 64 % 64 ∨ v / 64 % 64 = w / 64 % 64 ∧ v % 64 < w % 64)) := by
  have hv8 : v / 262144 % 8 = v / 262144 := Nat.mod_eq_of_lt (by omega)
  have hw8 : w / 262144 % 8 = w / 262144 := Nat.mod_eq_of_lt (by omega)
  rw [hv8, hw8]
  -- From the last digit to the first: either the rest is smaller already, or it is the same.
  have hlast : v / 64 < w / 64 ∨ v / 64 = w / 64 ∧ v % 64 < w % 64 := by omega
  rcases hlast with hrest | ⟨hrest, hdigit⟩
  · have hnext : v / 4096 < w / 4096 ∨ v / 4096 = w / 4096 ∧ v / 64 % 64 < w / 64 % 64 := by omega
    rcases hnext with hrest | ⟨hrest, hdigit⟩
    · have hfirst : v / 262144 < w / 262144 ∨
          v / 262144 = w / 262144 ∧ v / 4096 % 64 < w / 4096 % 64 := by omega
      rcases hfirst with hrest | ⟨hrest, hdigit⟩
      · exact .inl hrest
      · exact .inr ⟨hrest, .inl hdigit⟩
    · have htop : v / 262144 = w / 262144 := by omega
      exact .inr ⟨htop, .inr ⟨by rw [hrest], .inl hdigit⟩⟩
  · have htop : v / 262144 = w / 262144 := by omega
    have hmid : v / 4096 = w / 4096 := by omega
    exact .inr ⟨htop, .inr ⟨by rw [hmid], .inr ⟨by rw [hrest], hdigit⟩⟩⟩

/-- A digit with the mark of its place fits into a byte. -/
theorem mod_byte {n base mark : Nat} (hbase : 0 < base) (h : base + mark ≤ 256) :
    (n % base + mark) % 256 = n % base + mark := by
  have hlt := Nat.mod_lt n hbase
  apply Nat.mod_eq_of_lt
  omega

/-- Bytes compare as the numbers that are left of what they were made of. -/
theorem ofNat_lt_ofNat_iff (a b : Nat) : UInt8.ofNat a < UInt8.ofNat b ↔ a % 256 < b % 256 := by
  rw [UInt8.lt_iff_toNat_lt, UInt8.toNat_ofNat', UInt8.toNat_ofNat']

/-- So it is with equality. -/
theorem ofNat_eq_ofNat_iff (a b : Nat) : UInt8.ofNat a = UInt8.ofNat b ↔ a % 256 = b % 256 := by
  rw [← UInt8.toNat_inj, UInt8.toNat_ofNat', UInt8.toNat_ofNat']

/-- The codes of two characters are in the order of the characters, whatever follows them. -/
theorem encode_lt_encode {c d : Char} (h : c < d) (s t : List UInt8) :
    String.utf8EncodeChar c ++ s < String.utf8EncodeChar d ++ t := by
  have hlt : c.val.toNat < d.val.toNat := UInt32.lt_iff_toNat_lt.mp h
  have hmax : d.val.toNat < 0x110000 := by
    rcases d.valid with hd | ⟨-, hd⟩
    · exact Nat.lt_trans hd (by decide)
    · exact hd
  have hdigits := digits_lt hlt hmax
  have hlead2 : ∀ n, (n % 32 + 192) % 256 = n % 32 + 192 := fun n => mod_byte (by decide) (by decide)
  have hlead3 : ∀ n, (n % 16 + 224) % 256 = n % 16 + 224 := fun n => mod_byte (by decide) (by decide)
  have hlead4 : ∀ n, (n % 8 + 240) % 256 = n % 8 + 240 := fun n => mod_byte (by decide) (by decide)
  have hnext : ∀ n, (n % 64 + 128) % 256 = n % 64 + 128 := fun n => mod_byte (by decide) (by decide)
  unfold String.utf8EncodeChar
  dsimp only
  generalize c.val.toNat = v at hlt hdigits
  generalize d.val.toNat = w at hlt hmax hdigits
  -- One case for each pair of lengths: the leading bytes differ, or the lengths agree.
  repeat' split
  all_goals
    simp only [List.cons_append, List.nil_append, List.cons_lt_cons_iff, ofNat_lt_ofNat_iff,
      ofNat_eq_ofNat_iff, hlead2, hlead3, hlead4, hnext]
    omega

/-! ### Texts -/

/-- Lists of characters in order have their codes in order. -/
theorem flatMap_encode_lt {cs ds : List Char} (h : cs < ds) :
    cs.flatMap String.utf8EncodeChar < ds.flatMap String.utf8EncodeChar := by
  induction cs generalizing ds with
  | nil =>
    cases ds with
    | nil => exact absurd h (List.not_lt_nil _)
    | cons d ds =>
      obtain ⟨b, bs, hd⟩ := List.exists_cons_of_ne_nil (String.utf8EncodeChar_ne_nil (c := d))
      rw [List.flatMap_cons, hd]
      exact List.nil_lt_cons ..
  | cons c cs ih =>
    cases ds with
    | nil => exact absurd h (List.not_lt_nil _)
    | cons d ds =>
      rw [List.flatMap_cons, List.flatMap_cons]
      rcases List.cons_lt_cons_iff.mp h with hcd | ⟨rfl, hrest⟩
      · exact encode_lt_encode hcd _ _
      · exact List.append_left_lt (ih hrest)

/-- Texts are in the order of their bytes. -/
theorem lt_iff_bytes_lt (s t : String) : s < t ↔ bytes s < bytes t := by
  have hmono : ∀ s t : String, s < t → bytes s < bytes t := by
    intro s t h
    rw [bytes_eq, bytes_eq]
    exact flatMap_encode_lt (String.lt_iff.mp h)
  refine ⟨hmono s t, fun h => ?_⟩
  -- If the texts were not in order, they would be equal or in the other order, and so their bytes.
  by_cases hst : s < t
  · exact hst
  · by_cases hts : t < s
    · exact absurd h (List.lt_asymm (hmono t s hts))
    · have heq : s = t := String.le_antisymm (String.not_lt.mp hts) (String.not_lt.mp hst)
      rw [heq] at h
      exact absurd h (List.lt_irrefl _)

end Interop
