import Interop.Session.World

namespace Interop.Session

/-!
# What steps ask for and what they answer

* `Complaint`, `Arg` — an argument of a step may be missing or wrong, which shows when it is used.
* `Reply` — the answer to a step.
* `Answering` — programs that end with a reply, and perhaps with a thing to be named, or complain.
-/

/-- What is wrong with a step. -/
inductive Complaint
  /-- A name that stands for nothing, or for nothing of the sort. -/
  | badRef (name : String)
  | badInput (text : String)
deriving DecidableEq

/-- An argument of a step. -/
abbrev Arg (α : Type) := Except Complaint α

/-- The answer to a step. -/
inductive Reply
  | ok
  | complaint (c : Complaint)
  | constructionError (e : ConstructionError)
  | instantiationError (e : InstantiationError)
  | bridgeError (e : BridgeError)
  | configError (e : ConfigError)
  | domain (d : Option Domain)
  | domains (sees same : List (List Bool))
  | interface (i : Interface)
  | method (m : Option Method)
  | same (b : Bool)
  | cls (c : HostClass)
  | table (t : DispatchTable) (resolved : List (Option Nat × Option Method))
      (slots : List (Option Method))
  | platform (live : Nat) (text : Option String)
  | type (t : ProxyType) (implements : Option (List Bool))
  | bridge (b : Bridge ServiceChoice)
  | handle (h : Handle)
  | proxy (p : Proxy Handler) (implements : Option (List Bool))
  | nothing
  | value (v : Value)
  /-- The replies and events of calls whose order does not count. -/
  | tally (replies : List Reply) (events : List Event)
  | weak (released upgrades : Bool)
  | dropped (b : Bool)
  | alive (b : Option Bool)
  | variadic (b : Bool)
  | policy (global : Permission)
  | permissions (ps : List Permission)
  | truth (b : Bool)
  | member (m : Member) (accessible : Bool)
  | foreign (m : ForeignMember)
  | elevated (b : Bool)
  | accessible (b : Bool) (denied : Option AccessDenied)
  | refs (n : Nat)
  | read (number : Option Int) (text : Option String) (isSet : Bool)
  | previousContext (c : Option Context)
  | previousDomain (d : Option Domain)

/-- The reply to a call. -/
def Reply.ofCall : Except BridgeError Value → Reply
  | .ok v => value v
  | .error e => bridgeError e

/-- Programs that may complain. -/
abbrev Answering := ExceptT Complaint Run

/-- A reply, and the thing to be stored under the name that the step gives. -/
abbrev Outcome := Reply × Option Thing

/-- The thing of that name, if it is of the sort that `as` takes. -/
def find {α : Type} (as : Thing → Option α) (name : String) : Answering α := do
  match (← lookup name).bind as with
  | some a => return a
  | none => throw (.badRef name)

/-- The domain of that name. -/
def findDomain : String → Answering Domain :=
  find fun | .domain d => some d | _ => none

/-- The interface of that name. -/
def findInterface : String → Answering Interface :=
  find fun | .interface i => some i | _ => none

/-- The class of that name. -/
def findClass : String → Answering HostClass :=
  find fun | .cls c => some c | _ => none

/-- The platform of that name. -/
def findPlatform : String → Answering Platform :=
  find fun | .platform p => some p | _ => none

/-- The proxy type of that name, or of the handle or the instance of that name. -/
def findType : String → Answering ProxyType :=
  find Thing.type?

/-- The bridge of that name. -/
def findBridge : String → Answering (Bridge ServiceChoice) :=
  find fun | .bridge b => some b | _ => none

/-- The handle of that name. -/
def findHandle : String → Answering Handle :=
  find fun | .handle h => some h | _ => none

/-- The instance of that name. -/
def findInstance : String → Answering (Proxy Handler) :=
  find Thing.proxy?

/-- The number of the policy of that name. -/
def findPolicy : String → Answering Nat :=
  find fun | .policy n => some n | _ => none

/-- The member of that name, if it belongs to a policy. -/
def findMember : String → Answering Member :=
  find fun | .member m => some m | _ => none

/-- The context of that name. -/
def findContext : String → Answering Context :=
  find fun | .context c => some c | _ => none

/-- How a step lists interfaces. -/
inductive InterfaceRef
  | one (name : String)
  | repeated (name : String) (count : Nat)
  /-- All interfaces that were made together. -/
  | all (name : String)

/-- The interfaces that a step lists. -/
def findInterfaces : List InterfaceRef → Answering (List Interface)
  | [] => return []
  | r :: rs => do
    let is ← match r with
      | .one name => List.singleton <$> findInterface name
      | .repeated name count => List.replicate count <$> findInterface name
      | .all name => find (fun | .interfaces is => some is | _ => none) name
    return is ++ (← findInterfaces rs)

end Interop.Session
