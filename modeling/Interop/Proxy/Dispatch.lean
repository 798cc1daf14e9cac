import Interop.Proxy.Type
import Interop.Value

namespace Interop

/-!
# Dispatch

Every call of a proxy goes through its type's table to one handler. The definitions leave the
effects open: a handler, a warning and a coercion are programs of a monad `m`.

* `ProxyType.slotFor` — the slot of a call, or why there is none or the argument count is wrong.
* `ProxyType.call`, `ProxyType.callByName` — a call by descriptor and a call by names.
* `Forwarding` — what an instance captured when it was made; `Forwarding.handle` forwards a call
  to the engine's adapter and settles what the adapter answers.

The handler is called from one place only, after the slot was found and the number of arguments was
checked against it. It gets the slot of the table, so what the caller's descriptor says of result,
declarer or variability ends at the look-up.
-/

/-- What an adapter answers. -/
inductive Invocation
  | value (v : Value)
  /-- No script behaviour matches the method. -/
  | notSupported
  | error (e : ScriptError)

/-- The three references under which an instance calls its adapter. -/
structure CallTarget where
  factory : Object
  target : Object
  scope : Object
deriving DecidableEq

/-- A named value that a composite instance carries. -/
structure BindingSlot where
  name : String
  value : Value
deriving DecidableEq

/-- What a composite instance passes on with every call. -/
structure Payload where
  owner : Object
  slots : List BindingSlot
deriving DecidableEq

/-- The three references in diagnostics, where none of them can be told from another. -/
def CallTarget.text (_ : CallTarget) : String :=
  "CallTarget \x7b factory: PTR, target: PTR, scope: PTR \x7d"

/-- A named value in diagnostics. -/
def BindingSlot.text (s : BindingSlot) : String :=
  "BindingSlot \x7b name: " ++ Text.quote s.name ++ ", value: " ++ s.value.text ++ " \x7d"

/-- A payload in diagnostics. -/
def Payload.text (p : Payload) : String :=
  "CompositePayload \x7b owner: PTR, slots: [" ++ ", ".intercalate (p.slots.map (·.text)) ++ "] \x7d"

namespace ProxyType

variable (t : ProxyType)

/-- The slot for a call of `m` with `n` arguments. -/
def slotFor (m : Method) (n : Nat) : Except BridgeError Method :=
  match t.table.resolve m.signature with
  | none => .error (.noSuchMethod t.name m.signature.text)
  | some slot =>
    if slot.admits n then .ok slot
    else .error (.arityMismatch slot.signature.text slot.params.length n)

variable {m : Type → Type} [Monad m]

/-- Call a method by descriptor: the handler gets the slot, never the caller's descriptor. -/
def call (handle : Method → List Value → m (Except ScriptError Value)) (method : Method)
    (args : List Value) : m (Except BridgeError Value) :=
  match t.slotFor method args.length with
  | .error e => pure (.error e)
  | .ok slot => do
    match ← handle slot args with
    | .ok v => return .ok v
    | .error e => return .error (.script e)

/-- Call a method by the names of its interface and itself. -/
def callByName (handle : Method → List Value → m (Except ScriptError Value))
    (interface name : String) (args : List Value) : m (Except BridgeError Value) :=
  match t.findMethod? interface name with
  | none => pure (.error (.noSuchMethod t.name (interface ++ "." ++ name)))
  | some method => t.call handle method args

end ProxyType

/-- The engine's services during a call. -/
structure Services (m : Type → Type) where
  warn : String → m Unit
  coerce : Ty → m (Except ScriptError Value)

/-- Services in diagnostics. -/
def Services.text {m : Type → Type} (_ : Services m) : String :=
  "EngineServices \x7b .. \x7d"

/-- Settle the adapter's answer to a call of `slot`. A method without script behaviour is warned
    about if `warns` says so, and answers with what the engine makes of no value. -/
def Services.settle {m : Type → Type} [Monad m] (s : Services m) (warns : Bool) (slot : Method) :
    Invocation → m (Except ScriptError Value)
  | .value v => pure (.ok v)
  | .error e => pure (.error e)
  | .notSupported => do
    if warns then s.warn (undefinedMethodMessage slot.name)
    if slot.ret.isVoid then return .ok .null
    s.coerce slot.ret

/-- What an instance captured when it was made: the adapter `α`, how it is called, and the services
    `σ` and warning switch of the bridge that made it. -/
structure Forwarding (α σ : Type) where
  target : CallTarget
  payload : Option Payload
  adapter : α
  services : σ
  warns : Bool

/-- Forward a call of `slot` to the adapter and settle its answer. -/
def Forwarding.handle {α σ : Type} {m : Type → Type} [Monad m]
    (invoke : α → CallTarget → Option Payload → Method → List Value → m Invocation)
    (services : σ → Services m) (f : Forwarding α σ) (slot : Method) (args : List Value) :
    m (Except ScriptError Value) := do
  let answer ← invoke f.adapter f.target f.payload slot args
  (services f.services).settle f.warns slot answer

end Interop
