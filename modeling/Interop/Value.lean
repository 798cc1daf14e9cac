import Interop.Ty
import Interop.Text.Quoted
import Interop.Decimal.Positional

namespace Interop

/-!
# Values

* `Object` — an opaque reference; its serial number is its identity.
* `Value` — what crosses the bridge as an argument or a result. Floating-point values are words of
  their format, so two values are equal iff they have the same bits.
* `Value.text` — the text of a value in diagnostics.
-/

/-- An opaque reference. Two references are the same iff their serial numbers are. -/
structure Object where
  serial : Nat
  label : String
deriving DecidableEq, Inhabited

/-- A value passed across the bridge. -/
inductive Value
  | null
  | bool (b : Bool)
  | byte (n : Int8)
  | short (n : Int16)
  | char (c : Char)
  | int (n : Int32)
  | long (n : Int64)
  /-- A word of the 32-bit binary format. -/
  | float (bits : UInt32)
  /-- A word of the 64-bit binary format. -/
  | double (bits : UInt64)
  | str (s : String)
  | object (o : Object)
deriving DecidableEq, Inhabited

namespace Value

/-- Whether the value is null. -/
def isNull : Value → Bool
  | null => true
  | _ => false

/-- The truth value of a boolean. -/
def bool? : Value → Option Bool
  | bool b => some b
  | _ => none

/-- The number of an int; no other integer type counts. -/
def int? : Value → Option Int32
  | int n => some n
  | _ => none

/-- The word of a double; a float does not count. -/
def double? : Value → Option UInt64
  | double b => some b
  | _ => none

/-- The text of a string. -/
def str? : Value → Option String
  | str s => some s
  | _ => none

/-- The reference of an object. -/
def object? : Value → Option Object
  | object o => some o
  | _ => none

/-- The name of the variant and the text of its content. -/
def parts : Value → String × Option String
  | null => ("Null", none)
  | bool b => ("Bool", some (toString b))
  | byte n => ("Byte", some (toString n.toInt))
  | short n => ("Short", some (toString n.toInt))
  | char c => ("Char", some (Text.quoteChar c))
  | int n => ("Int", some (toString n.toInt))
  | long n => ("Long", some (toString n.toInt))
  | float b => ("Float", some (Decimal.single.text b.toNat))
  | double b => ("Double", some (Decimal.double.text b.toNat))
  | str s => ("Str", some (Text.quote s))
  | object _ => ("Object", some "PTR")

/-- The text of a value in diagnostics. An object shows no more than that it is one. -/
def text (v : Value) : String :=
  match v.parts with
  | (variant, none) => "HostValue::" ++ variant
  | (variant, some content) => "HostValue::" ++ variant ++ "(" ++ content ++ ")"

end Value

end Interop
