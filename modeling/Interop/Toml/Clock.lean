import Interop.Toml.Text
import Interop.Toml.Node

namespace Interop.Toml

/-!
# Dates and times

* `datetime` — a date with or without a time and an offset, or a time alone. Months, days, hours,
  minutes and seconds are in range; a second of 60 is allowed, and a day fits its month.
-/

open Reader

/-- A number of exactly `width` digits, between two bounds. -/
def between (width low high : Nat) : Reader Nat := do
  let n := ofDigits 10 (← exactly width Char.isDigit)
  if low ≤ n ∧ n ≤ high then return n else failure

/-- Whether February has 29 days, by the Gregorian rule. -/
def isLeap (year : Nat) : Bool :=
  year % 4 == 0 && (year % 100 != 0 || year % 400 == 0)

/-- The number of days of a month. -/
def monthDays (year month : Nat) : Nat :=
  if month = 2 then if isLeap year then 29 else 28
  else if month ∈ [4, 6, 9, 11] then 30
  else 31

/-- A date, `1979-05-27`, that the calendar has. -/
def date : Reader Date := do
  let year ← between 4 0 9999
  char '-'
  let month ← between 2 1 12
  char '-'
  let day ← between 2 1 31
  if monthDays year month < day then failure
  return ⟨year, month, day⟩

/-- The places of a second, cut to nanoseconds. -/
def secondFraction : Reader Nat := do
  char '.'
  let ds ← run1 Char.isDigit
  let kept := ds.take 9
  return ofDigits 10 kept * Nat.pow 10 (9 - kept.length)

/-- A time of day, `07:32:00.999`; a leap second counts. -/
def time : Reader Time := do
  let hour ← between 2 0 23
  char ':'
  let minute ← between 2 0 59
  char ':'
  let second ← between 2 0 60
  return ⟨hour, minute, second, (← maybe secondFraction).getD 0⟩

/-- A distance from universal time, `Z` or `+05:30`. -/
def offset : Reader Offset :=
  (do
    discard <| item fun c => c == 'Z' || c == 'z'
    return .zulu)
  <|> do
    let negative ← (do char '+'; return false) <|> (do char '-'; return true)
    let hour ← between 2 0 23
    char ':'
    let minute ← between 2 0 59
    let n : Int := hour * 60 + minute
    return .minutes (if negative then -n else n)

/-- A date, a time, or both with a space or the letter T between them and perhaps an offset. -/
def datetime : Reader Datetime :=
  (do
    let d ← date
    let clock ← maybe do
      discard <| item fun c => c == 'T' || c == 't' || c == ' '
      return (← time, ← maybe offset)
    return ⟨some d, clock.map (·.1), clock.bind (·.2)⟩)
  <|> do
    return ⟨none, some (← time), none⟩

end Interop.Toml
