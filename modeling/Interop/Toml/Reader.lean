namespace Interop.Toml

/-!
# Readers

* `Reader` — reads a value off the front of a text, or fails and reads nothing.
* `item`, `char`, `literal`, `run`, `many`, `ending` — the readers that the others are made of.
-/

/-- A reader gives a value and what it left of the text. A failed alternative reads nothing, so
    `p <|> q` tries `q` at the same place. -/
abbrev Reader (α : Type) := StateT (List Char) Option α

namespace Reader

/-- One character of a class. -/
def item (p : Char → Bool) : Reader Char := fun
  | c :: cs => if p c then some (c, cs) else none
  | [] => none

/-- The character `c`. -/
def char (c : Char) : Reader Unit := do
  discard <| item (· == c)

/-- The characters of `cs` in a row. -/
def literal (cs : String) : Reader Unit := fun s =>
  if cs.toList.isPrefixOf s then some ((), s.drop cs.length) else none

/-- The longest run of characters of a class. -/
def run (p : Char → Bool) : Reader (List Char) := fun s =>
  some (s.takeWhile p, s.dropWhile p)

/-- The longest run of characters of a class, not empty. -/
def run1 (p : Char → Bool) : Reader (List Char) := do
  let c ← item p
  return c :: (← run p)

/-- The end of the text. -/
def ending : Reader Unit := fun
  | [] => some ((), [])
  | _ :: _ => none

/-- Read with `p`, or nothing where `p` fails. -/
def maybe {α : Type} (p : Reader α) : Reader (Option α) :=
  (some <$> p) <|> pure none

/-- Succeed where `p` would, and leave the text as it is. -/
def ahead {α : Type} (p : Reader α) : Reader Unit := fun s =>
  (p s).map fun _ => ((), s)

/-- Read with `p` until it fails or stands still. -/
def manyFrom {α : Type} (p : Reader α) (s : List Char) : List α × List Char :=
  match p s with
  | none => ([], s)
  | some (a, r) =>
    if r.length < s.length then
      let (as, t) := manyFrom p r
      (a :: as, t)
    else ([], s)
termination_by s.length

/-- Read with `p` as often as it succeeds. -/
def many {α : Type} (p : Reader α) : Reader (List α) := fun s =>
  some (manyFrom p s)

/-- Exactly `n` characters of a class. -/
def exactly (n : Nat) (p : Char → Bool) : Reader (List Char) :=
  match n with
  | 0 => pure []
  | n + 1 => do
    let c ← item p
    return c :: (← exactly n p)

end Reader

end Interop.Toml
