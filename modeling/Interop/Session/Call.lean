import Interop.Session.World

namespace Interop.Session

/-!
# Calls in a session

* `act` — what a scripted adapter does with one call.
* `callNamed`, `callProxy` — call an instance by names or with any way to find its slot; adapters
  may call instances in turn.
-/

/-- Answer a call with a value, if there is one. -/
def answerWith : Option Value → Invocation
  | some v => .value v
  | none => .notSupported

/-- What a call inside a call means for the adapter that made it. A script error becomes the cause
    of a new one, any other error the text of one. -/
def ofNested : Option (Except BridgeError Value) → Invocation
  | none => .notSupported
  | some (.ok v) => .value v
  | some (.error (.script e)) => .error (.caused "nested" e)
  | some (.error e) => .error (.plain e.message)

/-- The behaviour of a sequence at the `n`-th call. -/
def Behaviour.nth (bs : List Behaviour) (n : Nat) : Option Behaviour :=
  match bs[n - 1]? with
  | some b => some b
  | none => bs.getLast?

/-- A call of an instance by the name of the instance and those of an interface and its method:
    nothing if there is no such instance. -/
abbrev NestedCall := String → String → String → List Literal → Run (Option (Except BridgeError Value))

/-- Do what a behaviour says at the `n`-th call of its adapter; `fuel` bounds how deep sequences
    nest. -/
def act (nested : NestedCall) (n : Nat) (payload : Option Payload) (args : List Value)
    (fuel : Nat) (b : Behaviour) : Run Invocation :=
  match fuel with
  | 0 => return .notSupported
  | fuel + 1 =>
    match b with
    | .ret v => return .value (← v.value)
    | .err e => return .error e
    | .unsupported => return .notSupported
    | .arg place => return answerWith args[place]?
    | .count => return .value (.int (Int32.ofNat n))
    | .slot name =>
      return answerWith ((payload.bind fun p => p.slots.find? (·.name == name)).map (·.value))
    | .drop name => return .value (.bool (← forget name))
    | .call proxy interface name literals => return ofNested (← nested proxy interface name literals)
    | .sequence bs =>
      match Behaviour.nth bs n with
      | none => return .notSupported
      | some b => act nested n payload args fuel b

/-- Call a scripted adapter. -/
def callAdapter (nested : NestedCall) (a : Adapter) (payload : Option Payload) (slot : Method)
    (args : List Value) : Run Invocation := do
  let n ← countCall a
  match a.find? slot with
  | none => return .notSupported
  | some b => act nested n payload args (b.size + 1) b

/-- The services of a bridge. -/
def ServiceChoice.services (s : ServiceChoice) : Services Run where
  warn text :=
    match s.sink with
    | .recorder => record (.warned text)
    | .log => log .warn "raya_bridge::diagnostics" text []
  coerce t := do
    if s.recorded then record (.coerced t)
    return s.coercion.ofNull t

/-- Handle a call of an instance. -/
def handleCall (nested : NestedCall) (p : Proxy Handler) (slot : Method) (args : List Value) :
    Run (Except ScriptError Value) := do
  log .trace "raya_bridge::proxy::instance" "dispatch" [("method", slot.text), ("proxy", p.type.name)]
  match p.handler with
  | .forwarding f =>
    let invoke := fun a target payload slot args => do
      record (.called target payload slot args)
      callAdapter nested a payload slot args
    f.handle invoke ServiceChoice.services slot args
  | .raw a =>
    record (.handled p.id slot args)
    match ← callAdapter nested a none slot args with
    | .value v => return .ok v
    | .error e => return .error e
    | .notSupported => return .error (.plain "handler: not supported")

/-- The instance of that name. -/
def findProxy (name : String) : Run (Option (Proxy Handler)) := do
  return (← lookup name).bind Thing.proxy?

/-- Call an instance by names, with calls inside calls at most `fuel` deep. -/
def callNamed : Nat → NestedCall
  | 0, _, _, _, _ => return some (.error (.illegalState "calls nest too deep" none))
  | fuel + 1, proxy, interface, name, literals => do
    match ← findProxy proxy with
    | none => return none
    | some p =>
      let args ← literals.mapM Literal.value
      return some (← p.type.callByName (handleCall (callNamed fuel) p) interface name args)

/-- How deep calls inside calls can nest before they repeat themselves for ever. Each step down
    either moves a sequence on or takes a behaviour that stays the same, so a chain longer than the
    square of the number of behaviours has no end. -/
def World.nesting (w : World) : Nat :=
  let n := (w.proxies.map (·.handler.adapter.size)).foldl (· + ·) 0
  (n + 1) * (n + 1)

/-- Call an instance by the names of an interface and its method. -/
def callByName (p : Proxy Handler) (interface name : String) (args : List Value) :
    Run (Except BridgeError Value) := do
  let fuel := (← getThe World).nesting
  p.type.callByName (handleCall (callNamed fuel) p) interface name args

/-- Call an instance by descriptor. -/
def callByMethod (p : Proxy Handler) (m : Method) (args : List Value) :
    Run (Except BridgeError Value) := do
  let fuel := (← getThe World).nesting
  p.type.call (handleCall (callNamed fuel) p) m args

end Interop.Session
