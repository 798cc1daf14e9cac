import Interop.Decimal.Binary

namespace Interop.Decimal

/-!
# The shortest decimal that reads back

The reals that round to a finite binary value form an interval: half the gap to either neighbour,
ends included iff the mantissa is even. On the grid of `n` significant digits the two neighbours of
the value are the only candidates worth testing; the first grid with one inside the interval wins,
and of two the nearer, a tie going up.

* `Finite.ratio` — the value and its interval over one denominator.
* `Ratio.candidate?` — the decimal of one grid that reads back.
* `Finite.shortest` — the digits and the decimal exponent of the shortest decimal.
-/

/-- A value with the ends of its rounding interval, all over `den`. -/
structure Ratio where
  low : Nat
  value : Nat
  high : Nat
  den : Nat
  closed : Bool

namespace Finite

/-- The rounding interval in quarters of the unit in the last place. -/
def ratio (x : Finite) : Ratio :=
  let up := Nat.pow 2 (x.scale - x.shift)
  let down := Nat.pow 2 (x.shift - x.scale)
  { low := (4 * x.mantissa - if x.narrowBelow then 1 else 2) * up
    value := 4 * x.mantissa * up
    high := (4 * x.mantissa + 2) * up
    den := 4 * down
    closed := x.mantissa % 2 == 0 }

end Finite

namespace Ratio

variable (r : Ratio)

/-- Whether `p / q` rounds to the value. -/
def holds (p q : Nat) : Bool :=
  if r.closed then r.low * q ≤ p * r.den && p * r.den ≤ r.high * q
  else r.low * q < p * r.den && p * r.den < r.high * q

/-- Whether the value is below `10 ^ k`. -/
def below (k : Int) : Bool :=
  r.value * Nat.pow 10 (-k).toNat < r.den * Nat.pow 10 k.toNat

/-- The least `k` from `start` on with the value below `10 ^ k`; `fuel` bounds the search. -/
def magnitude (fuel : Nat) (k : Int) : Int :=
  match fuel with
  | 0 => k
  | fuel + 1 => if r.below k then k else magnitude fuel (k + 1)

/-- The candidate on the grid `10 ^ g` that lies in the interval, the nearer of two, a tie going up. -/
def candidate? (g : Int) : Option Nat :=
  let up := Nat.pow 10 g.toNat
  let down := Nat.pow 10 (-g).toNat
  let d := r.value * down / (r.den * up)
  let rest := r.value * down % (r.den * up)
  let lower := r.holds (d * up) down && d != 0
  let upper := r.holds ((d + 1) * up) down
  if upper && (!lower || r.den * up ≤ 2 * rest) then some (d + 1)
  else if lower then some d
  else none

/-- Try the grids of `n`, `n + 1`, … significant digits below `10 ^ k`. -/
def search (k : Int) (fuel n : Nat) : Nat × Int :=
  match fuel with
  | 0 => (r.value / r.den, 0)
  | fuel + 1 =>
    match r.candidate? (k - n) with
    | some d => (d, k - n)
    | none => search k fuel (n + 1)

end Ratio

/-- `d · 10 ^ g` without the zeros at the end of `d`; `fuel` bounds their number. -/
def stripZeros (fuel d : Nat) (g : Int) : Nat × Int :=
  match fuel with
  | 0 => (d, g)
  | fuel + 1 => if d % 10 = 0 ∧ d ≠ 0 then stripZeros fuel (d / 10) (g + 1) else (d, g)

/-- The shortest decimal `d · 10 ^ g` that reads back as `x`, `d` without a zero at its end. -/
def Finite.shortest (x : Finite) : Nat × Int :=
  let r := x.ratio
  -- Both formats lie between the powers of ten -330 and 370.
  let k := r.magnitude 700 (-330)
  -- Seventeen digits tell all words of the 64-bit format apart.
  let (d, g) := r.search k 20 1
  stripZeros 20 d g

end Interop.Decimal
