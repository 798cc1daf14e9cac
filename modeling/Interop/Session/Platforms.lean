import Interop.Session.Reply

namespace Interop.Session

/-!
# Steps on platforms and proxy types

* `PlatformStep` — make platforms, request proxy types, and look at both.
* `race` — a request with a second one for the same type in the middle of it.
-/

/-- The sorts of platforms. -/
inductive PlatformKind
  | caching
  | uncached
  | shared
  | plain (constructor : Option Constructor)
  | failing (defect : Defect)

/-- A step on platforms and proxy types. -/
inductive PlatformStep
  | platform (kind : Arg PlatformKind)
  | info (platform : Arg String)
  | request (platform domain : Arg String) (interfaces : List InterfaceRef)
  | race (platform domain : Arg String) (interfaces : List InterfaceRef) (keep : Option String)
  | define (interfaces : List InterfaceRef) (domain : Arg String)
      (constructor : Option Constructor)
  | typeOf (of : Arg String)
  | typeInfo (of : Arg String) (implements : Option (List String))
  | sameType (a b : Arg String)

/-- Make a platform of the given sort. -/
def makePlatform : PlatformKind → Run Platform
  | .caching =>
    modifyGetThe World fun w =>
      let (n, foundry) := w.foundry.addCache
      (.caching n, { w with foundry })
  | .uncached => return .uncached
  | .shared => return .caching 0
  | .plain constructor => return .foreign constructor
  | .failing defect => return .defective defect

/-- The proxy type of `is` in `d` on platform `p`. -/
def requestType (p : Platform) (d : Domain) (is : List Interface) :
    Run (Except ConstructionError ProxyType) :=
  withFoundry fun f alive => f.proxyType alive p d is

/-- A type with an arbitrary table and constructor. -/
def defineType (d : Domain) (is : List Interface) (table : DispatchTable)
    (constructor : Option Constructor) : Run ProxyType :=
  withFoundry fun f _ =>
    let (t, f') := f.define d is table constructor
    (t, [], f')

/-- A request for the type that another request has just synthesized, with its result kept under a
    name or dropped. -/
def overtake (p : Platform) (d : Domain) (is : List Interface) (keep : Option String) : Run Unit := do
  match ← requestType p d is, keep with
  | .ok t, some name => bind name (.type t)
  | _, _ => return

/-- A request that another one overtakes between synthesis and the settling of the cache. -/
def race (p : Platform) (d : Domain) (is : List Interface) (keep : Option String) :
    Run (Except ConstructionError ProxyType) := do
  match p with
  | .foreign _ | .defective _ => requestType p d is
  | .uncached =>
    let result ← withFoundry fun f _ => f.synthesize d is
    if result.isOk then overtake p d is keep
    return result
  | .caching store =>
    let k := TypeKey.of d is
    let found ← withFoundry fun f alive =>
      match (f.cache store).live? alive k with
      | some t => (some t, [.hit t.name], f)
      | none => (none, (f.cache store).pruneNotes alive, f.pruneStore alive store)
    match found with
    | some t => return .ok t
    | none =>
      match ← withFoundry fun f _ => f.synthesize d is with
      | .error e => return .error e
      | .ok built =>
        overtake p d is keep
        -- The overtaking type wins as long as somebody still holds it.
        return .ok (← withFoundry fun f alive =>
          let (winner, f') := f.adopt alive store k built
          (winner, [], f'))

/-- The reply to a request for a type. -/
def typeOutcome : Except ConstructionError ProxyType → Outcome
  | .ok t => (.type t none, some (.type t))
  | .error e => (.constructionError e, none)

/-- Carry out a step on platforms and proxy types. -/
def performPlatform : PlatformStep → Answering Outcome
  | .platform kind => do
    return (.ok, some (.platform (← makePlatform (← kind))))
  | .info platform => do
    let name ← platform
    match ← findPlatform name with
    | .caching store =>
      let w ← getThe World
      let live := (w.foundry.cache store).liveCount w.holdsType
      return (.platform live (if store = 0 then none else some (Foundry.platformText true live)), none)
    | .uncached => return (.platform 0 (some (Foundry.platformText false 0)), none)
    | .foreign _ | .defective _ => throw (.badRef name)
  | .request platform domain interfaces => do
    let p ← findPlatform (← platform)
    let d ← findDomain (← domain)
    return typeOutcome (← requestType p d (← findInterfaces interfaces))
  | .race platform domain interfaces keep => do
    let p ← findPlatform (← platform)
    let d ← findDomain (← domain)
    return typeOutcome (← race p d (← findInterfaces interfaces) keep)
  | .define interfaces domain constructor => do
    let is ← findInterfaces interfaces
    match DispatchTable.build is with
    | .error e => return (.constructionError e, none)
    | .ok table =>
      let d ← findDomain (← domain)
      let t ← defineType d is table constructor
      return (.type t none, some (.type t))
  | .typeOf of => do
    let t ← findType (← of)
    return (.type t none, some (.type t))
  | .typeInfo of implements => do
    let t ← findType (← of)
    return (.type t (some ((implements.getD []).map t.implements)), none)
  | .sameType a b => do
    let a ← findType (← a)
    let b ← findType (← b)
    return (.same (a.id == b.id), none)

end Interop.Session
