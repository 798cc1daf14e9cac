import Interop.Text.Printable
import Interop.Text.Extender

namespace Interop.Text

/-!
# Quoted characters and strings

* `escape` — one character inside quotes: the short escapes, the quote in use, and `\u{…}` for
  what cannot be seen on its own.
* `quoteChar`, `quote` — a character between single quotes, a string between double quotes.
-/

/-- The lower-case hexadecimal digits of `n`, without leading zeros. -/
def hex (n : Nat) : String :=
  String.ofList (Nat.toDigits 16 n)

/-- The numbered escape of a character. -/
def numbered (c : Char) : String :=
  "\\u\x7b" ++ hex c.toNat ++ "\x7d"

/-- How `c` is written between two quote characters `q`. -/
def escape (q c : Char) : String :=
  if c = '\x00' then "\\0"
  else if c = '\t' then "\\t"
  else if c = '\r' then "\\r"
  else if c = '\n' then "\\n"
  else if c = '\\' ∨ c = q then "\\".push c
  else if isExtender c ∨ ¬isPrintable c then numbered c
  else c.toString

/-- A character between single quotes. -/
def quoteChar (c : Char) : String :=
  "'" ++ escape '\'' c ++ "'"

/-- A string between double quotes. -/
def quote (s : String) : String :=
  "\"" ++ String.join (s.toList.map (escape '"')) ++ "\""

end Interop.Text
