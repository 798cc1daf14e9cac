namespace Interop

/-!
# Declared types

* `Ty` — what an interface method declares for its parameters and its result.
* `Ty.name` — the type as written in signatures.
* `Ty.isVoid`, `Ty.isPrimitive` — the two classes of types that are not references.
-/

/-- The declared type of a parameter or a result. -/
inductive Ty
  | void
  | boolean
  | byte
  | short
  | char
  | int
  | long
  | float
  | double
  | string
  /-- Any other reference type, by name. -/
  | object (name : String)
  | array (element : Ty)
deriving DecidableEq, Inhabited

namespace Ty

/-- The type as written in signatures. A named type may read like a primitive; the two stay
    distinct as types. -/
def name : Ty → String
  | void => "void"
  | boolean => "boolean"
  | byte => "byte"
  | short => "short"
  | char => "char"
  | int => "int"
  | long => "long"
  | float => "float"
  | double => "double"
  | string => "String"
  | object n => n
  | array t => t.name ++ "[]"

/-- Whether the type carries no value. -/
def isVoid : Ty → Bool
  | void => true
  | _ => false

/-- Whether the type is neither void nor a reference. -/
def isPrimitive : Ty → Bool
  | boolean | byte | short | char | int | long | float | double => true
  | void | string | object _ | array _ => false

/-- `n` array levels around `t`. -/
def arrays (t : Ty) : Nat → Ty
  | 0 => t
  | n + 1 => array (arrays t n)

end Ty

end Interop
