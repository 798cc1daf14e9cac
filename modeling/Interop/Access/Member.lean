import Interop.Access.Elevation
import Interop.Access.Policy
import Interop.Ty

namespace Interop

/-!
# Members under a policy

* `Member` — a reflected member that belongs to a policy; copies of it share one flag.
* `AccessState` — the policies and the flags; `AccessState.setAccessible` is the gate.
* `Member.reflect` — the member as foreign code sees it, over any monad with such a state.

Policies and flags are held by number. A policy is shared by all members that were reflected under it,
so a change of it is a change for all of them from then on; a flag is shared by the copies of one
member. Flags are not derived from policies: what a policy permits is looked up when a flag is raised,
and never again.
-/

/-- A reflected field, method or constructor. Its serial number is its identity. -/
structure Member where
  serial : Nat
  declaring : String
  name : String
  kind : MemberKind
  visibility : Visibility
  params : List Ty
  variadic : Bool
  /-- The number of the policy that decides about the member. -/
  policy : Nat
deriving DecidableEq

/-- The policies and the accessibility flags, both by number. -/
structure AccessState where
  policies : List Policy := []
  flags : List Bool := []

namespace AccessState

variable (s : AccessState)

/-- The policy of that number; a number never given out stands for one that opens everything. -/
def policy (n : Nat) : Policy :=
  s.policies.getD n .permissive

/-- The flag of that number. -/
def flag (n : Nat) : Bool :=
  s.flags.getD n false

/-- Make room for a policy and give its number. -/
def addPolicy (p : Policy) : Nat × AccessState :=
  (s.policies.length, { s with policies := s.policies ++ [p] })

/-- Change the policy of that number. -/
def updatePolicy (n : Nat) (f : Policy → Policy) : AccessState :=
  { s with policies := s.policies.modify n f }

/-- Make room for a flag. -/
def addFlag (value : Bool) : Nat × AccessState :=
  (s.flags.length, { s with flags := s.flags ++ [value] })

/-- Set the flag of that number. -/
def setFlag (n : Nat) (value : Bool) : AccessState :=
  { s with flags := s.flags.set n value }

/-- To set one flag leaves the others as they are. -/
theorem flag_setFlag_of_ne {n other : Nat} (h : other ≠ n) (value : Bool) :
    (s.setFlag n value).flag other = s.flag other := by
  simp [flag, setFlag, List.getD_eq_getElem?_getD, List.getElem?_set_ne (Ne.symm h)]

/-- A flag shows what it was set to. -/
theorem flag_setFlag_self {n : Nat} (h : n < s.flags.length) (value : Bool) :
    (s.setFlag n value).flag n = value := by
  simp [flag, setFlag, List.getD_eq_getElem?_getD, h]

/-- Flags and policies are kept apart. -/
@[simp] theorem policy_setFlag (n number : Nat) (value : Bool) :
    (s.setFlag n value).policy number = s.policy number := rfl

/-- Reflect a member: its flag is up iff it is public. -/
def reflect (declaring name : String) (kind : MemberKind) (visibility : Visibility)
    (params : List Ty) (variadic : Bool) (policy : Nat) : Member × AccessState :=
  let (serial, s') := s.addFlag (visibility == .pub)
  ({ serial, declaring, name, kind, visibility, params, variadic, policy }, s')

/-- Whether the member's policy lets it be made accessible now. -/
def allows (m : Member) : Bool :=
  (s.policy m.policy).allows m.declaring m.kind m.visibility

/-- Set a member's flag. Raising it needs the policy's permission at this moment, lowering it
    needs none. -/
def setAccessible (m : Member) (value : Bool) : Except AccessDenied Unit × AccessState :=
  if value && !s.allows m then (.error ⟨m.declaring ++ "." ++ m.name⟩, s)
  else (.ok (), s.setFlag m.serial value)

end AccessState

namespace Member

/-- Whether members of this sort have an access mode. -/
def supported (m : Member) : Bool :=
  m.kind != .other

variable {n : Type → Type} [Monad n] [MonadStateOf AccessState n]

/-- The access mode of a member: its flag, behind the gate. -/
def accessMode (m : Member) : AccessMode n where
  isAccessible := do return (← getThe AccessState).flag m.serial
  setAccessible value := modifyGetThe AccessState fun s => s.setAccessible m value

/-- The member as foreign code sees it. -/
def reflect (m : Member) : Reflected n where
  name := pure m.name
  isVariadic := pure m.variadic
  accessMode := pure (if m.supported then some m.accessMode else none)

end Member

end Interop
