import Interop.Proxy.Table

namespace Interop

/-!
# Proxy types

* `ProxyType` — a type made to implement a fixed interface list; its number is its identity and
  makes its name.
* `ProxyType.ready` — whether the default constructor check lets an instance be made.
-/

/-- The modifiers of the constructor that takes a dispatch handler. -/
structure Constructor where
  accessible : Bool := true
  instantiable : Bool := true
deriving DecidableEq

/-- A synthesized type. -/
structure ProxyType where
  id : Nat
  domain : Domain
  /-- The implemented interfaces in the order requested. -/
  interfaces : List Interface
  table : DispatchTable
  /-- The constructor that takes a dispatch handler, if there is one. -/
  constructor : Option Constructor
deriving DecidableEq

namespace ProxyType

variable (t : ProxyType)

/-- The name of the type, which its number makes unique. -/
def name : String :=
  "$Proxy" ++ toString t.id

/-- Whether some interface of the type has the name `n`. -/
def implements (n : String) : Bool :=
  t.interfaces.any (·.name == n)

/-- Look for a method by the names of its interface and itself: the first interface so named, and
    its first method so named. -/
def findMethod? (interface name : String) : Option Method :=
  (t.interfaces.find? (·.name == interface)).bind (·.find? name)

/-- The default check before an instance is made. Access is checked before instantiability. -/
def ready : Except InstantiationError Unit :=
  match t.constructor with
  | none => .error (.notInstantiable (t.name ++ " has no handler constructor"))
  | some c =>
    if !c.accessible then .error (.illegalAccess t.name)
    else if !c.instantiable then .error (.notInstantiable t.name)
    else .ok ()

end ProxyType

end Interop
