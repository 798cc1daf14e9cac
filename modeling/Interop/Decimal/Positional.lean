import Interop.Decimal.Shortest

namespace Interop.Decimal

/-!
# Positional notation

Numbers are written without an exponent, whatever their size, and without a decimal point where
they are whole.

* `positional` — `d · 10 ^ g` in digits and at most one point.
* `Format.text` — the text of a word: its shortest decimal, or `NaN`, `inf`, `-inf`, `0`, `-0`.
-/

/-- Write `d · 10 ^ g` in positional notation. -/
def positional (d : Nat) (g : Int) : String :=
  let ds := Nat.toDigits 10 d
  let point := ds.length + g
  if 0 ≤ g then
    String.ofList (ds ++ List.replicate g.toNat '0')
  else if 0 < point then
    String.ofList (ds.take point.toNat ++ '.' :: ds.drop point.toNat)
  else
    String.ofList ('0' :: '.' :: List.replicate (-point).toNat '0' ++ ds)

/-- The sign in front of a number. -/
def sign (negative : Bool) : String :=
  if negative then "-" else ""

/-- The text of a word of the format. -/
def Format.text (f : Format) (bits : Nat) : String :=
  match f.decode bits with
  | .nan => "NaN"
  | .infinite s => sign s ++ "inf"
  | .zero s => sign s ++ "0"
  | .finite s x => let (d, g) := x.shortest; sign s ++ positional d g

example : double.text 0x3FB999999999999A = "0.1" := by decide +kernel

example : double.text 0x0000000000000001 =
    "0." ++ String.ofList (List.replicate 323 '0') ++ "5" := by decide +kernel

example : single.text 0x4B800000 = "16777216" := by decide +kernel

end Interop.Decimal
