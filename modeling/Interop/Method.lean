import Interop.Ty

namespace Interop

/-!
# Methods

* `Signature` — a method's name and parameter types: its identity within a dispatch table.
* `Method` — an interface method as seen at call time.
* `Method.admits` — the argument counts a method takes.
-/

/-- A method's name and parameter types. -/
structure Signature where
  name : String
  params : List Ty
deriving DecidableEq

/-- The signature as written, `run(int, String)`. -/
def Signature.text (s : Signature) : String :=
  s.name ++ "(" ++ ", ".intercalate (s.params.map Ty.name) ++ ")"

/-- An interface method. -/
structure Method where
  /-- The name of the declaring interface. -/
  declaring : String
  name : String
  params : List Ty
  ret : Ty
  /-- Whether the last parameter takes any number of arguments. -/
  variadic : Bool
deriving DecidableEq

namespace Method

/-- The name and the parameter types of the method. -/
def signature (m : Method) : Signature :=
  ⟨m.name, m.params⟩

/-- The method as written, `void Listener.onEvent(String)`. -/
def text (m : Method) : String :=
  m.ret.name ++ " " ++ m.declaring ++ "." ++ m.signature.text

/-- Whether the method takes `n` arguments: as many as it has parameters, or, if it is variadic, no
    fewer than its parameters less one. -/
def admits (m : Method) (n : Nat) : Bool :=
  if m.variadic then m.params.length ≤ n + 1 else n == m.params.length

end Method

/-- The warning for a method that has no script behind it. -/
def undefinedMethodMessage (name : String) : String :=
  "Property \"" ++ name ++ "\" is not defined in interface adapter"

end Interop
