import Interop.Config.Decode
import Interop.Session.Call
import Interop.Session.Platforms

namespace Interop.Session

/-!
# Steps on bridges, handles and instances

* `ProxyStep` — make bridges, handles and instances, call instances, and see what is still alive.
-/

/-- Where a new handle's interfaces and domain come from. -/
inductive HandleSource
  | first (interfaces : List InterfaceRef)
  | within (domain : Arg String) (interfaces : List InterfaceRef)
  | cls (cls : Arg String)

/-- An adapter as a step gives it. -/
structure AdapterScript where
  methods : List (String × Behaviour)
  otherwise : Option Behaviour

/-- The three labels under which an instance calls its adapter. -/
structure TargetLabels where
  factory : String
  target : String
  scope : String

/-- How a step says that no value is to be converted. -/
inductive NullRule
  | plain (c : Coercion)
  | constant (value : Literal)

/-- How a step calls an instance. -/
inductive Callee
  | named (interface name : Arg String)
  | described (method : Arg Method)

/-- A step on bridges, handles and instances. -/
inductive ProxyStep
  | standardBridge
  | bridge (toml : Option String) (rule : Arg NullRule) (platform : Option String) (sink : Sink)
  | handle (bridge : Arg String) (source : HandleSource)
  | handleAgain (of bridge : Arg String)
  | proxy (labels : TargetLabels) (bridge handle : Arg String) (adapter : AdapterScript)
  | composite (labels : TargetLabels) (owner : String) (bridge handle : Arg String)
      (slots : Arg (List (String × Literal))) (adapter : AdapterScript)
  | raw (type : Arg String) (platform : Option String) (adapter : AdapterScript)
  | info (proxy : Arg String) (implements : List String)
  | call (proxy : Arg String) (callee : Callee) (args : Arg (List Literal))
  | callThreads (proxy : Arg String) (callee : Callee) (args : Arg (List Literal))
      (threads times : Nat)
  | downgrade (proxy : Arg String)
  | released (weak : Arg String)
  | upgrade (weak : Arg String)
  | sameProxy (a b : Arg String)
  | alias (of : Arg String)
  | drop (name : Arg String)
  | release (label : Arg String)
  | alive (label : Arg String)

/-- The coercion that a rule stands for; an object that it answers with is mentioned now. -/
def NullRule.coercion : NullRule → Run Coercion
  | plain c => return c
  | constant v => return .constant (← v.value)

/-- Make a handle. -/
def makeHandle
    (f : Foundry → (Nat → Bool) → Except BridgeError Handle × List Note × Foundry) :
    Run Outcome := do
  match ← withFoundry f with
  | .ok h => return (.handle h, some (.handle h))
  | .error e => return (.bridgeError e, none)

/-- The reply to a request for an instance. -/
def proxyOutcome (p : Proxy Handler) : Outcome :=
  (.proxy p none, some (.proxy p))

/-- The objects of three labels, mentioned in the order of the fields. -/
def mentionTarget (labels : TargetLabels) : Run CallTarget := do
  let factory ← mention labels.factory
  let target ← mention labels.target
  return ⟨factory, target, ← mention labels.scope⟩

/-- Make an instance through a handle. -/
def instantiate (b : Bridge ServiceChoice) (h : Handle) (target : CallTarget)
    (payload : Option Payload) (script : AdapterScript) : Run Outcome := do
  let adapter ← newAdapter script.methods script.otherwise
  match ← newProxy (h.instantiate (.forwarding (b.forwarding adapter target payload))) with
  | .ok p => return proxyOutcome p
  | .error e => return (.bridgeError e, none)

/-- Make an instance with a handler of the session's own; without a platform nothing is checked. -/
def instantiateRaw (t : ProxyType) (p : Option Platform) (script : AdapterScript) : Run Outcome := do
  let handler := Handler.raw (← newAdapter script.methods script.otherwise)
  let make := match p with
    | some p => p.instantiate t handler
    | none => fun next => (.ok ⟨next, t, handler⟩, next + 1)
  match ← newProxy make with
  | .ok p => return proxyOutcome p
  | .error e => return (.instantiationError e, none)

/-- The values of literals, from left to right. -/
def literalValues (ls : List Literal) : Run (List Value) :=
  ls.mapM Literal.value

/-- The slots of a composite instance. -/
def bindingSlots (slots : List (String × Literal)) : Run (List BindingSlot) :=
  slots.mapM fun s => return ⟨s.1, ← s.2.value⟩

/-- The arguments of a call and the program that makes it. -/
def callInstance (p : Proxy Handler) (callee : Callee) (args : Arg (List Literal)) :
    Answering (List Value × (List Value → Run (Except BridgeError Value))) := do
  let program : List Value → Run (Except BridgeError Value) ← match callee with
    | .named interface name => do
      let interface ← interface
      pure (callByName p interface (← name))
    | .described method => do
      pure (callByMethod p (← method))
  let args ← literalValues (← args)
  return (args, program)

/-- The instance of that number, as long as it has a name. -/
def upgradeWeak (id : Nat) : Run (Option (Proxy Handler)) := do
  return (← getThe World).proxies.find? (·.id == id)

/-- The instance number behind a weak reference of that name. -/
def findWeak : String → Answering Nat :=
  find fun | .weak id => some id | _ => none

/-- Carry out a step on bridges, handles and instances. -/
def performProxy : ProxyStep → Answering Outcome
  | .standardBridge => do
    let config : Config := {}
    let b : Bridge ServiceChoice :=
      ⟨.standard config, ⟨.log, .lenient, false⟩, config⟩
    return (.bridge b, some (.bridge b))
  | .bridge toml rule platform sink => do
    match (toml.map Config.parse).getD (.ok {}) with
    | .error e => return (.configError e, none)
    | .ok config =>
      let coercion ← (← rule).coercion
      let p ← match platform with
        | none => pure (Platform.standard config)
        | some name => findPlatform name
      let b : Bridge ServiceChoice := ⟨p, ⟨sink, coercion, true⟩, config⟩
      return (.bridge b, some (.bridge b))
  | .handle bridge source => do
    let p := (← findBridge (← bridge)).platform
    match source with
    | .first interfaces =>
      let is ← findInterfaces interfaces
      makeHandle fun f alive => f.handle alive p is
    | .within domain interfaces =>
      let d ← findDomain (← domain)
      let is ← findInterfaces interfaces
      makeHandle fun f alive => f.handleIn alive p d is
    | .cls name =>
      let c ← findClass (← name)
      makeHandle fun f alive => f.subclassHandle alive p c
  | .handleAgain of bridge => do
    let t ← findType (← of)
    let p := (← findBridge (← bridge)).platform
    makeHandle fun f alive => f.handle alive p t.interfaces
  | .proxy labels bridge handle adapter => do
    let target ← mentionTarget labels
    let b ← findBridge (← bridge)
    let h ← findHandle (← handle)
    instantiate b h target none adapter
  | .composite labels owner bridge handle slots adapter => do
    let target ← mentionTarget labels
    let owner ← mention owner
    let b ← findBridge (← bridge)
    let h ← findHandle (← handle)
    let slots ← bindingSlots (← slots)
    instantiate b h target (some ⟨owner, slots⟩) adapter
  | .raw type platform adapter => do
    let t ← findType (← type)
    let p ← platform.mapM findPlatform
    instantiateRaw t p adapter
  | .info proxy implements => do
    let p ← findInstance (← proxy)
    return (.proxy p (some (implements.map p.type.implements)), none)
  | .call proxy callee args => do
    let p ← findInstance (← proxy)
    let (args, program) ← callInstance p callee args
    return (.ofCall (← program args), none)
  | .callThreads proxy callee args threads times => do
    let p ← findInstance (← proxy)
    let (args, program) ← callInstance p callee args
    let before := (← getThe World).events
    let replies ← (List.range (threads * times)).mapM fun _ => return Reply.ofCall (← program args)
    let events := (← getThe World).events
    modifyThe World ({ · with events := before })
    return (.tally replies (events.take (events.length - before.length)).reverse, none)
  | .downgrade proxy => do
    let p ← findInstance (← proxy)
    return (.ok, some (.weak p.id))
  | .released weak => do
    let p ← upgradeWeak (← findWeak (← weak))
    return (.weak p.isNone p.isSome, none)
  | .upgrade weak => do
    match ← upgradeWeak (← findWeak (← weak)) with
    | some p => return proxyOutcome p
    | none => return (.nothing, none)
  | .sameProxy a b => do
    let a ← findInstance (← a)
    let b ← findInstance (← b)
    return (.same (a.id == b.id), none)
  | .alias of => do
    let t ← find some (← of)
    return (.ok, some t)
  | .drop name => do
    return (.dropped (← forget (← name)), none)
  | .release label => do
    return (.dropped (← release (← label)), none)
  | .alive label => do
    return (.alive (← isAlive (← label)), none)

end Interop.Session
