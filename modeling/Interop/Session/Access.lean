import Interop.Config.Decode
import Interop.Config.Policy
import Interop.Session.Reply

namespace Interop.Session

/-!
# Steps on policies and members

* `ForeignMember.reflect` — a member that the session implements, with its ways to fail.
* `AccessStep` — make and change policies, reflect members and try to open them up.
-/

/-- Programs of members: they act on a session and may panic. -/
abbrev Reflecting := ExceptT Panic Run

/-- The access mode of a foreign member. Every touch is an event, also one that panics. -/
def ForeignMember.accessMode (m : ForeignMember) : AccessMode Reflecting where
  isAccessible := do
    record .looked
    if m.mode = .panicsOnGet then throw .panic
    return (← getThe AccessState).flag m.serial
  setAccessible flag := do
    record (.touched flag)
    if m.mode = .panicsOnSet then throw .panic
    if m.mode ≠ .ignores ∧ m.mode ≠ .denies then
      modifyThe AccessState fun s => s.setFlag m.serial flag
    if m.mode = .denies ∨ m.mode = .deniesButSets then
      return .error ⟨m.declaring ++ "." ++ m.name⟩
    return .ok ()

/-- A foreign member as its callers see it. -/
def ForeignMember.reflect (m : ForeignMember) : Reflected Reflecting where
  name := return m.name
  isVariadic := return m.isVariadic
  accessMode := return if m.supported then some m.accessMode else none

/-- Where a new policy comes from. -/
inductive PolicySource
  | toml (text : String)
  | global (p : Arg Permission)

/-- A step on policies and members. -/
inductive AccessStep
  | policy (source : PolicySource)
  | setType (policy typeName : Arg String) (permission : Arg Permission)
  | addRule (policy pattern : Arg String) (permission : Arg Permission)
  | resolve (policy : Arg String) (typeNames : Arg (List String))
  | allows (policy typeName : Arg String) (kind : Arg MemberKind) (visibility : Arg Visibility)
  | member (policy : Arg String) (visibility : Arg Visibility) (declaring : Arg String)
      (kind : Arg MemberKind) (name : Arg String) (params : Arg (List Ty)) (variadic : Bool)
  | foreign (name declaring : Arg String) (kind : Arg MemberKind) (variadic : Bool)
      (mode : MemberMode) (accessible : Bool)
  | elevate (member : Arg String)
  | accessible (member : Arg String)
  | setAccessible (member : Arg String) (flag : Bool)
  | sameMember (a b : Arg String)
  | isVariadic (bridge member : Arg String)

/-- A member of either sort. -/
def findReflected (name : String) : Answering (Reflected Reflecting) :=
  find (fun
    | .member m => some m.reflect
    | .foreign m => some m.reflect
    | _ => none) name

/-- The entry that an elevation writes to the log. -/
def writeNote (note : ElevationNote) : Reflecting Unit :=
  log .debug "raya_bridge::access" note.message [("member", note.member)]

/-- Ask a member something; a panic means no. -/
def ask (p : Reflecting Bool) : Run Bool := do
  match ← p.run with
  | .ok b => return b
  | .error _ => return false

/-- Give a policy a number. -/
def makePolicy (p : Policy) : Run Outcome := do
  let n ← modifyGetThe AccessState fun s => s.addPolicy p
  return (.policy p.global, some (.policy n))

/-- Carry out a step on policies and members. -/
def performAccess : AccessStep → Answering Outcome
  | .policy (.toml text) => do
    match Config.parse text with
    | .error e => return (.configError e, none)
    | .ok config =>
      match config.access.policy with
      | .error e => return (.configError e, none)
      | .ok p => makePolicy p
  | .policy (.global permission) => do
    makePolicy { global := ← permission }
  | .setType policy typeName permission => do
    let n ← findPolicy (← policy)
    let typeName ← typeName
    let permission ← permission
    modifyThe AccessState fun s => s.updatePolicy n (·.setType typeName permission)
    return (.ok, none)
  | .addRule policy pattern permission => do
    let n ← findPolicy (← policy)
    let r : Rule := ⟨← pattern, ← permission⟩
    modifyThe AccessState fun s => s.updatePolicy n (·.addRule r)
    return (.ok, none)
  | .resolve policy typeNames => do
    let n ← findPolicy (← policy)
    let p := (← getThe AccessState).policy n
    return (.permissions ((← typeNames).map p.resolve), none)
  | .allows policy typeName kind visibility => do
    let n ← findPolicy (← policy)
    let p := (← getThe AccessState).policy n
    let typeName ← typeName
    let kind ← kind
    return (.truth (p.allows typeName kind (← visibility)), none)
  | .member policy visibility declaring kind name params variadic => do
    let n ← findPolicy (← policy)
    let visibility ← visibility
    let declaring ← declaring
    let kind ← kind
    let name ← name
    let params ← params
    let m ← modifyGetThe AccessState fun s =>
      s.reflect declaring name kind visibility params variadic n
    return (.member m ((← getThe AccessState).flag m.serial), some (.member m))
  | .foreign name declaring kind variadic mode accessible => do
    let name ← name
    let declaring ← declaring
    let kind ← kind
    let serial ← modifyGetThe AccessState fun s => s.addFlag accessible
    let m : ForeignMember := ⟨serial, declaring, name, kind, variadic, mode⟩
    return (.foreign m, some (.foreign m))
  | .elevate member => do
    let r ← findReflected (← member)
    let w ← getThe World
    let elevated ← ask (Interop.elevate (if w.logging then some writeNote else none) r)
    return (.elevated elevated, none)
  | .accessible member => do
    let m ← findMember (← member)
    return (.accessible ((← getThe AccessState).flag m.serial) none, none)
  | .setAccessible member flag => do
    let m ← findMember (← member)
    let r ← modifyGetThe AccessState fun s => s.setAccessible m flag
    let denied := match r with
      | .ok () => none
      | .error e => some e
    return (.accessible ((← getThe AccessState).flag m.serial) denied, none)
  | .sameMember a b => do
    let a ← findMember (← a)
    let b ← findMember (← b)
    return (.same (a.serial == b.serial), none)
  | .isVariadic bridge member => do
    let b ← findBridge (← bridge)
    let r ← findReflected (← member)
    let declared ← ask r.isVariadic
    return (.variadic (b.config.reportsVariadic declared), none)

end Interop.Session
