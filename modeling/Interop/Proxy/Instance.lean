import Interop.Proxy.Dispatch
import Interop.Proxy.Platform

namespace Interop

/-!
# Instances

An instance binds a proxy type to one handler, of any type `η`. Its number is its identity; a failed
attempt takes none.

* `Proxy` — an instance.
* `Platform.instantiate` — make an instance of a type on a platform.
-/

/-- A live instance of a proxy type. -/
structure Proxy (η : Type) where
  id : Nat
  type : ProxyType
  /-- What every call of the instance goes to. -/
  handler : η

/-- Make the instance number `next` of `t`; the second component is the number after it. -/
def Platform.instantiate {η : Type} (p : Platform) (t : ProxyType) (handler : η) (next : Nat) :
    Except InstantiationError (Proxy η) × Nat :=
  match p.check t with
  | .error e => (.error e, next)
  | .ok () => (.ok ⟨next, t, handler⟩, next + 1)

/-- An instance in diagnostics. -/
def Proxy.text {η : Type} (p : Proxy η) : String :=
  "ProxyInstance \x7b id: " ++ toString p.id ++ ", type: " ++ Text.quote p.type.name ++ " \x7d"

end Interop
