import Std.Data.HashSet
import Interop.Proxy.Type

namespace Interop

/-!
# Synthesis of proxy types

* `validate` — whether an interface list may be implemented in a domain. The list is read from the
  left, and at one position a class is reported before an invisible interface and that before a
  repeated one.
* `synthesize` — the proxy type of a valid list whose declarations agree.
-/

/-- The largest number of interfaces of one proxy type. -/
def interfaceLimit : Nat := 65535

/-- Check the interfaces in order against `d` and the serial numbers in `seen`. -/
def validateFrom (d : Domain) (seen : Std.HashSet Nat) :
    List Interface → Except ConstructionError Unit
  | [] => .ok ()
  | i :: is =>
    if !i.isInterface then .error (.notAnInterface i.name)
    else if !d.canSee i.domain then .error (.notVisible i.name d.name)
    else if seen.contains i.serial then .error (.duplicateInterface i.name)
    else validateFrom d (seen.insert i.serial) is

/-- Check an interface list for a type defined in `d`. -/
def validate (d : Domain) (is : List Interface) : Except ConstructionError Unit :=
  if is.isEmpty then .error .emptyInterfaceSet
  else if interfaceLimit < is.length then .error (.tooManyInterfaces is.length)
  else validateFrom d ∅ is

/-- The proxy type number `next` for `is` in `d`. -/
def synthesize (next : Nat) (d : Domain) (is : List Interface) :
    Except ConstructionError ProxyType :=
  match validate d is with
  | .error e => .error e
  | .ok () =>
    match DispatchTable.build is with
    | .error e => .error e
    | .ok table => .ok ⟨next, d, is, table, some {}⟩

end Interop
