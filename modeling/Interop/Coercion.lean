import Interop.Value
import Interop.Error

namespace Interop

/-!
# Coercion of no value

* `Value.zero` — the zero of a primitive type, null for everything else.
* `Coercion` — the ways an engine may turn no value into a declared type; `Coercion.ofNull` does it.
-/

/-- Zero for primitives, null for references and void. -/
def Value.zero : Ty → Value
  | .boolean => .bool false
  | .byte => .byte 0
  | .short => .short 0
  | .char => .char '\x00'
  | .int => .int 0
  | .long => .long 0
  | .float => .float 0
  | .double => .double 0
  | .void | .string | .object _ | .array _ => .null

/-- How an engine converts no value to a declared type. -/
inductive Coercion
  /-- Every type has a zero. -/
  | lenient
  /-- Primitive types refuse. -/
  | strict
  | failing (error : ScriptError)
  | constant (value : Value)
deriving DecidableEq

/-- Convert no value to `t`. -/
def Coercion.ofNull : Coercion → Ty → Except ScriptError Value
  | lenient, t => .ok (.zero t)
  | strict, t =>
    if t.isPrimitive then .error (.plain ("Cannot convert null to " ++ t.name)) else .ok .null
  | failing e, _ => .error e
  | constant v, _ => .ok v

end Interop
