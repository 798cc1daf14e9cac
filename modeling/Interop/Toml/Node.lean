namespace Interop.Toml

/-!
# Document trees

* `Node` — a value of a document. A table remembers how it came about, since that decides what may
  be added to it later.
* `Datetime` — a date, a time of day or both; `Datetime.text` is its normal form.
-/

/-- A calendar date. -/
structure Date where
  year : Nat
  month : Nat
  day : Nat
deriving DecidableEq

/-- A time of day. -/
structure Time where
  hour : Nat
  minute : Nat
  second : Nat
  nanosecond : Nat
deriving DecidableEq

/-- The distance of a clock from universal time. -/
inductive Offset
  | zulu
  | minutes (n : Int)
deriving DecidableEq

/-- A date, a time of day, or both, and then perhaps an offset. -/
structure Datetime where
  date : Option Date
  time : Option Time
  offset : Option Offset
deriving DecidableEq

/-- `n` in at least `width` digits. -/
def padded (width n : Nat) : String :=
  let ds := Nat.toDigits 10 n
  String.ofList (List.replicate (width - ds.length) '0' ++ ds)

/-- The date as written. -/
def Date.text (d : Date) : String :=
  padded 4 d.year ++ "-" ++ padded 2 d.month ++ "-" ++ padded 2 d.day

/-- The time with as many places of the second as it needs. -/
def Time.text (t : Time) : String :=
  let whole := padded 2 t.hour ++ ":" ++ padded 2 t.minute ++ ":" ++ padded 2 t.second
  if t.nanosecond = 0 then whole
  else
    let places := (padded 9 t.nanosecond).toList.reverse.dropWhile (· == '0')
    whole ++ "." ++ String.ofList places.reverse

/-- The offset as written. -/
def Offset.text : Offset → String
  | zulu => "Z"
  | minutes n =>
    let sign := if n < 0 then "-" else "+"
    sign ++ padded 2 (n.natAbs / 60) ++ ":" ++ padded 2 (n.natAbs % 60)

/-- The date, the time or both in one form, whatever the separator was. -/
def Datetime.text (d : Datetime) : String :=
  let date := (d.date.map Date.text).getD ""
  let mark := if d.date.isSome && d.time.isSome then "T" else ""
  date ++ mark ++ (d.time.map Time.text).getD "" ++ (d.offset.map Offset.text).getD ""

/-- How a table came about. -/
inductive Origin
  /-- By a header of its own, or as the document itself. -/
  | header
  /-- On the way to a header further down; a header of its own may still follow. -/
  | implied
  /-- On the way along a dotted key; further dotted keys may add to it. -/
  | dotted
  /-- Between braces; nothing may be added. -/
  | inline
deriving DecidableEq

/-- A value of a document. -/
inductive Node
  | string (s : String)
  | integer (n : Int)
  /-- A floating-point number as written, without underscores. -/
  | float (text : String)
  | boolean (b : Bool)
  | datetime (d : Datetime)
  | array (items : List Node)
  /-- The tables under one repeated header. -/
  | tables (items : List Node)
  | table (origin : Origin) (fields : List (String × Node))
deriving Inhabited

/-- The entries of a table in the order written. -/
abbrev Fields := List (String × Node)

namespace Node

/-- The text of a string. -/
def string? : Node → Option String
  | string s => some s
  | _ => none

/-- The truth value of a boolean. -/
def boolean? : Node → Option Bool
  | boolean b => some b
  | _ => none

end Node

end Interop.Toml
