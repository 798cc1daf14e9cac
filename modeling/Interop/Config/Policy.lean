import Interop.Config.Basic
import Interop.Access.Policy
import Interop.Error

namespace Interop

/-!
# The policy of a configuration

* `AccessConfig.policy` — the policy that an access section describes: its wildcard keys are rules
  in ascending order, its other keys exact entries.

The values are read in ascending order of their keys, after the global one, so the error is about the
first key in this order whose value does not read. Which rule decides a type is a matter of the same
order.
-/

/-- Whether a key stands for a rule. -/
def isWildcard (key : String) : Bool :=
  key.toList.contains '*'

/-- Take the entries in order into a policy, up to the first value that does not read. -/
def Policy.addEntries (p : Policy) : List (String × String) → Except ConfigError Policy
  | [] => .ok p
  | (key, value) :: es =>
    match Permission.parse value with
    | none => .error (.invalidPermission key value)
    | some permission =>
      if isWildcard key then (p.addRule ⟨key, permission⟩).addEntries es
      else (p.setType key permission).addEntries es

/-- The policy that an access section describes. -/
def AccessConfig.policy (a : AccessConfig) : Except ConfigError Policy :=
  match Permission.parse a.global with
  | none => .error (.invalidPermission "global" a.global)
  | some global => Policy.addEntries { global } a.types.toList

end Interop
