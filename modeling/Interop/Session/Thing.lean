import Interop.Access.Member
import Interop.Coercion
import Interop.Proxy.Bridge

namespace Interop.Session

/-!
# What a session works with

A session plays both the host and the engine: it makes things, names them, and scripts the adapters
that the proxies forward to.

* `Behaviour`, `Adapter` — a scripted adapter.
* `Thing` — what a name may stand for.
-/

/-- A value as a session writes it. An object is named by a label, and becomes an object when it is
    mentioned. -/
inductive Literal
  | plain (v : Value)
  | object (label : String)

/-- What a scripted adapter does when it is called. -/
inductive Behaviour
  | ret (value : Literal)
  | err (error : ScriptError)
  | unsupported
  /-- Answer with the argument at a place. -/
  | arg (place : Nat)
  /-- Answer with the number of calls that the adapter has had. -/
  | count
  /-- Answer with the first slot of that name. -/
  | slot (name : String)
  /-- Forget a name, and answer whether it stood for something. -/
  | drop (name : String)
  /-- Call a proxy by the names of an interface and a method. -/
  | call (proxy interface name : String) (args : List Literal)
  /-- Do one after the other from call to call, and the last from then on. -/
  | sequence (bs : List Behaviour)

instance : Inhabited Behaviour := ⟨.unsupported⟩

/-- The number of behaviours in a behaviour. -/
def Behaviour.size : Behaviour → Nat
  | sequence bs => 1 + sizes bs
  | _ => 1
where
  sizes : List Behaviour → Nat
    | [] => 0
    | b :: bs => b.size + sizes bs

/-- A scripted adapter: a behaviour by signature or name of the method, and one for all others. -/
structure Adapter where
  /-- The number under which its calls are counted. -/
  serial : Nat
  methods : List (String × Behaviour)
  otherwise : Option Behaviour

/-- The behaviour for a method: by its signature, else by its name, else the general one. -/
def Adapter.find? (a : Adapter) (m : Method) : Option Behaviour :=
  match a.methods.lookup m.signature.text with
  | some b => some b
  | none =>
    match a.methods.lookup m.name with
    | some b => some b
    | none => a.otherwise

/-- The number of behaviours of an adapter. -/
def Adapter.size (a : Adapter) : Nat :=
  (a.methods.map (·.2.size)).foldl (· + ·) 0 + (a.otherwise.map Behaviour.size).getD 0

/-- Where a bridge's warnings go. -/
inductive Sink
  | recorder
  | log
deriving DecidableEq

/-- The services that the bridges of a session use. -/
structure ServiceChoice where
  sink : Sink
  coercion : Coercion
  /-- Whether a conversion shows among the events. -/
  recorded : Bool

/-- What handles the calls of an instance. -/
inductive Handler
  | forwarding (f : Forwarding Adapter ServiceChoice)
  /-- A handler of the session's own. -/
  | raw (adapter : Adapter)

/-- The adapter behind a handler. -/
def Handler.adapter : Handler → Adapter
  | forwarding f => f.adapter
  | raw a => a

/-- The object in a value, if there is one. -/
def heldByValue (v : Value) : List Object :=
  v.object?.toList

/-- The objects that services keep alive: what they answer for no value. -/
def ServiceChoice.holds (s : ServiceChoice) : List Object :=
  match s.coercion with
  | .constant v => heldByValue v
  | _ => []

/-- The objects that an instance keeps alive, those of its services included. -/
def Handler.holds : Handler → List Object
  | raw _ => []
  | forwarding f =>
    [f.target.factory, f.target.target, f.target.scope] ++ f.services.holds ++
      match f.payload with
      | none => []
      | some p => p.owner :: p.slots.flatMap (heldByValue ·.value)

/-- How a foreign member behaves when its access mode is touched. -/
inductive MemberMode
  | works
  /-- Has no access mode. -/
  | none
  /-- Has no access mode and says nothing of being variadic. -/
  | bare
  | panicsOnGet
  | panicsOnSet
  /-- Accepts a change without making it. -/
  | ignores
  | denies
  /-- Makes a change and refuses it. -/
  | deniesButSets
deriving DecidableEq

/-- A member that the session implements itself. -/
structure ForeignMember where
  /-- The number of its flag. -/
  serial : Nat
  declaring : String
  name : String
  kind : MemberKind
  variadic : Bool
  mode : MemberMode
deriving DecidableEq

/-- Whether the member has an access mode. -/
def ForeignMember.supported (m : ForeignMember) : Bool :=
  m.mode != .none && m.mode != .bare

/-- What the member says when it is asked whether it is variadic. -/
def ForeignMember.isVariadic (m : ForeignMember) : Bool :=
  m.mode != .bare && m.variadic

/-- What a context holds; there are contexts of two types. -/
inductive ContextData
  | number (n : Int)
  | text (s : String)
deriving DecidableEq

/-- The content of a context of the first type. -/
def ContextData.number? : ContextData → Option Int
  | number n => some n
  | text _ => none

/-- The content of a context of the second type. -/
def ContextData.text? : ContextData → Option String
  | text s => some s
  | number _ => none

/-- A context that a thread can make active. -/
structure Context where
  serial : Nat
  data : ContextData
deriving DecidableEq

/-- What a name of a session may stand for. -/
inductive Thing
  | domain (d : Domain)
  | interface (i : Interface)
  | interfaces (is : List Interface)
  | cls (c : HostClass)
  | platform (p : Platform)
  | type (t : ProxyType)
  | bridge (b : Bridge ServiceChoice)
  | handle (h : Handle)
  | proxy (p : Proxy Handler)
  /-- A reference to an instance that does not keep it alive. -/
  | weak (proxy : Nat)
  | policy (number : Nat)
  | member (m : Member)
  | foreign (m : ForeignMember)
  | context (c : Context)
  /-- The content of a context slot, saved. -/
  | saved (slot : Option Context)

namespace Thing

/-- The proxy type that a thing is, is a handle on, or is an instance of. -/
def type? : Thing → Option ProxyType
  | type t => some t
  | handle h => some h.type
  | proxy p => some p.type
  | _ => none

/-- The instance that a thing is. -/
def proxy? : Thing → Option (Proxy Handler)
  | proxy p => some p
  | _ => none

/-- The objects that a thing keeps alive. -/
def holds : Thing → List Object
  | bridge b => b.services.holds
  | proxy p => p.handler.holds
  | _ => []

/-- The context that a thing refers to. -/
def context? : Thing → Option Context
  | context c => some c
  | saved slot => slot
  | _ => none

end Thing

end Interop.Session
