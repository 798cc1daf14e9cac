namespace Interop.Decimal

/-!
# Binary interchange formats

* `Format` — the widths of the fraction and exponent fields; `single` and `double`.
* `Datum` — what a word stands for: not a number, an infinity, or `±m · 2 ^ (q - bias)`.
* `Format.decode` — the datum of a word.
-/

/-- A binary interchange format, by the widths of its two lower fields. -/
structure Format where
  fractionBits : Nat
  exponentBits : Nat

/-- The 32-bit format. -/
def single : Format := ⟨23, 8⟩

/-- The 64-bit format. -/
def double : Format := ⟨52, 11⟩

/-- A positive finite value `mantissa · 2 ^ (scale - shift)`, with the information which rounding
    needs: whether the gap below is half the gap above. -/
structure Finite where
  mantissa : Nat
  scale : Nat
  shift : Nat
  narrowBelow : Bool

/-- What a word of a binary format stands for. -/
inductive Datum
  | nan
  | infinite (negative : Bool)
  | zero (negative : Bool)
  | finite (negative : Bool) (value : Finite)

namespace Format

variable (f : Format)

/-- The field of the word below the exponent. -/
def fraction (bits : Nat) : Nat :=
  bits % Nat.pow 2 f.fractionBits

/-- The biased exponent field. -/
def exponent (bits : Nat) : Nat :=
  bits / Nat.pow 2 f.fractionBits % Nat.pow 2 f.exponentBits

/-- The sign bit. -/
def negative (bits : Nat) : Bool :=
  bits / Nat.pow 2 (f.fractionBits + f.exponentBits) % 2 == 1

/-- The power of two that a word with the least exponent is divided by. -/
def shift : Nat :=
  Nat.pow 2 (f.exponentBits - 1) - 2 + f.fractionBits

/-- Read a word. An exponent field of zero has no implied leading bit and the scale of the next
    exponent; an exponent field of all ones holds the infinities and what is not a number. -/
def decode (bits : Nat) : Datum :=
  let m := f.fraction bits
  let e := f.exponent bits
  let s := f.negative bits
  if e = Nat.pow 2 f.exponentBits - 1 then
    if m = 0 then .infinite s else .nan
  else if e = 0 then
    if m = 0 then .zero s else .finite s ⟨m, 0, f.shift, false⟩
  else
    .finite s ⟨m + Nat.pow 2 f.fractionBits, e - 1, f.shift, m == 0 && 1 < e⟩

end Format

end Interop.Decimal
