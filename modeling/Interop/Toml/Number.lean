import Interop.Toml.Text
import Interop.Toml.Node

namespace Interop.Toml

/-!
# Numbers

* `integer` — decimal with a sign, or hexadecimal, octal, binary without; it fits 64 signed bits.
* `float` — a decimal fraction or a power of ten, or both; infinity and not-a-number by name. A
  decimal that rounds to positive infinity is refused.
-/

open Reader

/-- Digits of a class with single underscores between them; the underscores are left out. -/
def digits (p : Char → Bool) : Reader (List Char) := do
  let first ← item p
  let rest ← many (item p <|> do char '_'; item p)
  return first :: rest

/-- A sign, if there is one. -/
def signChar : Reader (List Char) :=
  (do char '+'; return ['+']) <|> (do char '-'; return ['-']) <|> pure []

/-- The digits of a decimal integer: no zero in front of another digit. -/
def decimalDigits : Reader (List Char) :=
  (do
    ahead (item fun c => c.isDigit && c != '0')
    digits Char.isDigit)
  <|> (List.singleton <$> item Char.isDigit)

/-- The integer with the sign and digits, if it fits 64 signed bits. -/
def bounded (negative : Bool) (n : Nat) : Reader Node :=
  if negative then
    if n ≤ Nat.pow 2 63 then return .integer (-n) else failure
  else
    if n < Nat.pow 2 63 then return .integer n else failure

/-- An integer in another base, after its mark. -/
def based (mark : String) (base : Nat) (p : Char → Bool) : Reader Node := do
  literal mark
  bounded false (ofDigits base (← digits p))

/-- An integer in any of its forms. -/
def integer : Reader Node :=
  based "0x" 16 isHex
  <|> based "0o" 8 (fun c => '0' ≤ c && c ≤ '7')
  <|> based "0b" 2 (fun c => c == '0' || c == '1')
  <|> do
    let sign ← signChar
    bounded (sign == ['-']) (ofDigits 10 (← decimalDigits))

/-- A point and the digits after it. -/
def fraction : Reader (List Char) := do
  char '.'
  digits Char.isDigit

/-- The power of ten behind a number: its sign and digits. -/
def exponent : Reader (List Char × List Char) := do
  discard <| item fun c => c == 'e' || c == 'E'
  let sign ← signChar
  return (sign, ← digits Char.isDigit)

/-- Whether `m · 10 ^ e` rounds to infinity in the 64-bit format. Far from the bound the number of
    its digits settles that. -/
def overflows (m : Nat) (e : Int) : Bool :=
  let places := (Nat.toDigits 10 m).length + e
  -- Half a unit above the largest finite value; a tie there goes to infinity.
  let bound := Nat.pow 2 1024 - Nat.pow 2 970
  if m = 0 ∨ places < 300 then false
  else if 320 < places then true
  else bound * Nat.pow 10 (-e).toNat ≤ m * Nat.pow 10 e.toNat

/-- A decimal with a fraction or a power of ten. -/
def decimalFloat : Reader Node := do
  let sign ← signChar
  let whole ← decimalDigits
  let (frac, exp) ←
    (do return ([], some (← exponent)))
    <|> (do
      let f ← fraction
      return (f, ← maybe exponent))
  let power : Int := match exp with
    | none => 0
    | some (s, ds) => if s = ['-'] then -(ofDigits 10 ds : Int) else ofDigits 10 ds
  if sign ≠ ['-'] ∧ overflows (ofDigits 10 (whole ++ frac)) (power - frac.length) then failure
  let point := if frac.isEmpty then [] else '.' :: frac
  let tail := match exp with
    | none => []
    | some (s, ds) => 'e' :: (s ++ ds)
  return .float (String.ofList (sign ++ whole ++ point ++ tail))

/-- Infinity or not-a-number, with a sign or without. -/
def namedFloat : Reader Node := do
  let sign ← signChar
  let name ← (do literal "inf"; return "inf") <|> (do literal "nan"; return "nan")
  return .float (String.ofList sign ++ name)

/-- A floating-point number in any of its forms. -/
def float : Reader Node :=
  decimalFloat <|> namedFloat

end Interop.Toml
