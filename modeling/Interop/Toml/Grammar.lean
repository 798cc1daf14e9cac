import Interop.Toml.Number
import Interop.Toml.Clock
import Interop.Toml.Assembly

namespace Interop.Toml

/-!
# The grammar of documents

* `value` — a value whose arrays and inline tables nest no deeper than a bound.
* `statements` — all statements of a document.
* `parse` — the fields of a document, if its text is well formed and its statements agree.
-/

open Reader

/-- Fewer levels than this of arrays and inline tables may nest, and a key has fewer parts. -/
def depthLimit : Nat := 80

/-- One part of a key. -/
def simpleKey : Reader String :=
  basicString <|> literalString
    <|> (String.ofList <$> run1 fun c => c.isAlphanum || c == '_' || c == '-')

/-- A key as a path and a last part, with the spaces around its parts. -/
def key : Reader (List String × String) := do
  let part := do
    space
    let k ← simpleKey
    space
    return k
  let first ← part
  let rest ← many do
    char '.'
    part
  let parts := first :: rest
  if depthLimit ≤ parts.length then failure
  return (parts.dropLast, parts.getLastD first)

/-- Values with a separator between them, perhaps none. -/
def separated {α : Type} (p : Reader α) (separator : Reader Unit) : Reader (List α) :=
  (do
    let first ← p
    let rest ← many do
      separator
      p
    return first :: rest)
  <|> pure []

/-- An array of values; a comma after the last one is allowed. -/
def arrayOf (element : Reader Node) : Reader Node := do
  char '['
  let items ← separated (do gap; let v ← element; gap; return v) (char ',')
  if !items.isEmpty then discard <| maybe (char ',')
  gap
  char ']'
  return .array items

/-- A key and its value. -/
def binding (element : Reader Node) : Reader (List String × String × Node) := do
  let (path, k) ← key
  char '='
  space
  return (path, k, ← element)

/-- A table between braces. -/
def inlineTableOf (element : Reader Node) : Reader Node := do
  char '\x7b'
  let bindings ← separated (do let b ← binding element; space; return b) (char ',')
  space
  char '\x7d'
  let table ← bindings.foldlM (fun t b => assign b.1 b.2.1 b.2.2 t.1 t.2) (Origin.inline, [])
  return .table .inline table.2

/-- A truth value, `true` or `false`. -/
def boolean : Reader Node :=
  (do literal "true"; return .boolean true) <|> (do literal "false"; return .boolean false)

/-- A value without parts. -/
def simpleValue : Reader Node :=
  (.string <$> stringLiteral) <|> boolean <|> (.datetime <$> datetime) <|> float <|> integer

/-- A value whose arrays and inline tables nest at most `depth` deep. -/
def value (depth : Nat) : Reader Node :=
  match depth with
  | 0 => simpleValue
  | depth + 1 => simpleValue <|> arrayOf (value depth) <|> inlineTableOf (value depth)

/-- A header between brackets: its path and last part. -/
def header : Reader Statement :=
  (do
    literal "[["
    let (path, k) ← key
    literal "]]"
    return .arrayHeader path k)
  <|> do
    char '['
    let (path, k) ← key
    char ']'
    return .header path k

/-- A line with its end; one without a statement gives none. -/
def line : Reader (Option Statement) := do
  space
  (do
    let s ← header <|> do
      let (path, k, v) ← binding (value (depthLimit - 1))
      return .assign path k v
    lineEnd
    return some s)
  <|> (do
    comment
    newline <|> ending
    return none)
  <|> do
    newline
    return none

/-- The statements of a document; a byte order mark in front of it is skipped. -/
def statements : Reader (List Statement) := do
  discard <| maybe (char '\ufeff')
  let lines ← many line
  space
  ending
  return lines.filterMap id

/-- The fields of a document. -/
def parse (text : String) : Option Fields := do
  let (ss, _) ← statements text.toList
  assemble ss

end Interop.Toml
