import Interop.Toml.Reader

namespace Interop.Toml

/-!
# Space and strings

* `space`, `newline`, `comment`, `gap` — what stands between the tokens.
* `basicString`, `literalString`, `multilineBasic`, `multilineLiteral` — the four forms of strings.
-/

open Reader

/-- A blank within a line. -/
def isSpace (c : Char) : Bool :=
  c == ' ' || c == '\t'

/-- A character that may stand in a comment or a string: no control character but the tab. -/
def isText (c : Char) : Bool :=
  c == '\t' || (' ' ≤ c && c ≠ '\x7f')

/-- Spaces and tabs. -/
def space : Reader Unit := do
  discard <| run isSpace

/-- A line feed, alone or after a carriage return. -/
def newline : Reader Unit :=
  char '\n' <|> literal "\r\n"

/-- From a number sign to the end of the line, the line end excluded. -/
def comment : Reader Unit := do
  char '#'
  discard <| run isText

/-- The end of a line that may have a comment. -/
def lineEnd : Reader Unit := do
  space
  discard <| maybe comment
  newline <|> ending

/-- Spaces, line ends and comments. -/
def gap : Reader Unit := do
  space
  discard <| many do
    discard <| maybe comment
    newline
    space

/-! ### Escapes -/

/-- What a hexadecimal digit counts. -/
def hexValue (c : Char) : Nat :=
  if c.isDigit then c.toNat - '0'.toNat else c.toLower.toNat - 'a'.toNat + 10

/-- A hexadecimal digit in either case. -/
def isHex (c : Char) : Bool :=
  c.isDigit || ('a' ≤ c.toLower && c.toLower ≤ 'f')

/-- The number that digits stand for in a base. -/
def ofDigits (base : Nat) (ds : List Char) : Nat :=
  ds.foldl (fun n d => n * base + hexValue d) 0

/-- The character of a code point given in hexadecimal digits, if there is one. -/
def scalar (n : Nat) : Reader Char := do
  let c ← exactly n isHex
  let code := ofDigits 16 c
  if code.isValidChar then return Char.ofNat code else failure

/-- The short escapes. -/
def shortEscapes : List (Char × Char) :=
  [('b', '\x08'), ('t', '\t'), ('n', '\n'), ('f', '\x0c'), ('r', '\r'), ('"', '"'), ('\\', '\\')]

/-- A backslash and what it stands for with the characters after it. -/
def escaped : Reader Char := do
  char '\\'
  let c ← item fun _ => true
  match shortEscapes.lookup c with
  | some d => return d
  | none =>
    if c = 'u' then scalar 4
    else if c = 'U' then scalar 8
    else failure

/-! ### Strings on one line -/

/-- A string between double quotes, with escapes. -/
def basicString : Reader String := do
  char '"'
  let parts ← many <|
    run1 (fun c => isText c && c != '"' && c != '\\') <|> (List.singleton <$> escaped)
  char '"'
  return String.ofList parts.flatten

/-- A string between single quotes, without escapes. -/
def literalString : Reader String := do
  char '\''
  let cs ← run fun c => isText c && c != '\''
  char '\''
  return String.ofList cs

/-! ### Strings on several lines -/

/-- One or two quotes that belong to the content, since more content follows. -/
def innerQuotes (q : Char) (content : Reader (List Char)) : Reader (List Char) :=
  (do char q; char q; ahead content; return [q, q]) <|> (do char q; ahead content; return [q])

/-- Three quotes, with one or two in front of them that belong to the content. -/
def closingQuotes (q : Char) : Reader (List Char) :=
  let close := do char q; char q; char q
  (do char q; char q; close; return [q, q]) <|> (do char q; close; return [q])
    <|> (do close; return [])

/-- A string between three quotes each; a line end right after the opening is left out. -/
def multiline (q : Char) (content : Reader (List Char)) : Reader String := do
  char q; char q; char q
  discard <| maybe newline
  let parts ← many (content <|> innerQuotes q content)
  let last ← closingQuotes q
  return String.ofList (parts.flatten ++ last)

/-- A line end inside a string is a line feed. -/
def lineFeed : Reader (List Char) := do
  newline
  return ['\n']

/-- A backslash at the end of a line leaves out the line end and all blanks after it. -/
def continuation : Reader (List Char) := do
  char '\\'
  space
  newline
  discard <| many (newline <|> discard (item isSpace))
  return []

/-- A string between three double quotes each, with escapes. -/
def multilineBasic : Reader String :=
  multiline '"' <|
    run1 (fun c => isText c && c != '"' && c != '\\')
      <|> continuation <|> (List.singleton <$> escaped) <|> lineFeed

/-- A string between three single quotes each, without escapes. -/
def multilineLiteral : Reader String :=
  multiline '\'' <|
    run1 (fun c => isText c && c != '\'') <|> lineFeed

/-- A string in any of its forms. -/
def stringLiteral : Reader String :=
  multilineBasic <|> basicString <|> multilineLiteral <|> literalString

end Interop.Toml
