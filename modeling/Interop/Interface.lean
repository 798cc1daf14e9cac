import Interop.Domain
import Interop.Method

namespace Interop

/-!
# Interfaces

* `Interface` — a host contract: methods in declaration order, defined in a domain.
* `Interface.declare`, `Interface.build` — add methods; give the descriptor an identity.
* `HostClass` — a class with the interfaces it implements.

A descriptor can be used before it is built, and can be changed after that. All descriptors that were
never built share the number zero, and one that is changed keeps its number, so equal numbers do not
mean equal methods.
-/

/-- Whether a descriptor is an interface, which a proxy can implement, or a class. -/
inductive DescriptorKind
  | interface
  | cls
deriving DecidableEq

/-- A host interface. Two descriptors of one name in one domain are still distinct interfaces:
    identity is the serial number that `build` assigns, zero before that. -/
structure Interface where
  serial : Nat
  name : String
  domain : Domain
  kind : DescriptorKind
  methods : List Method
deriving DecidableEq

namespace Interface

/-- A descriptor without methods and without an identity of its own. -/
def new (name : String) (domain : Domain) (kind : DescriptorKind) : Interface :=
  { serial := 0, name, domain, kind, methods := [] }

/-- Append a method, declared by this descriptor whatever its `declaring` field says. -/
def declare (i : Interface) (m : Method) : Interface :=
  { i with methods := i.methods ++ [{ m with declaring := i.name }] }

/-- Give the descriptor the identity `serial`. -/
def build (i : Interface) (serial : Nat) : Interface :=
  { i with serial }

/-- Whether a proxy may implement the descriptor. -/
def isInterface (i : Interface) : Bool :=
  i.kind == .interface

/-- The first method declared under `name`. -/
def find? (i : Interface) (name : String) : Option Method :=
  i.methods.find? (·.name == name)

end Interface

/-- A host class with its interfaces in declaration order. -/
structure HostClass where
  name : String
  domain : Domain
  interfaces : List Interface
deriving DecidableEq

end Interop
