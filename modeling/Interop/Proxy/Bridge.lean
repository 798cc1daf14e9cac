import Interop.Config.Basic
import Interop.Proxy.Instance

namespace Interop

/-!
# Bridges

A bridge turns interface lists into handles, and handles into instances whose every call goes to an
adapter of the engine.

* `Bridge`, `Handle` — where proxies come from; a recipe for the instances of one type.
* `Foundry.handleIn`, `Foundry.handle`, `Foundry.subclassHandle` — the three ways to a handle.
* `Handle.instantiate`, `Bridge.forwarding` — make an instance through a handle; what the instances
  of a bridge capture.
-/

/-- A bridge: its platform, the services `σ` of its engine, and its settings. -/
structure Bridge (σ : Type) where
  platform : Platform
  services : σ
  config : Config

/-- The platform of a bridge that was given none: types are shared process-wide, under number zero,
    or not at all. -/
def Platform.standard (c : Config) : Platform :=
  if c.cacheProxyTypes then .caching 0 else .uncached

/-- Whether a bridge reports a member as variadic that the host declares as `declared`. -/
def Config.reportsVariadic (c : Config) (declared : Bool) : Bool :=
  match c.variadic with
  | .alwaysFalse => false
  | .declared => declared

/-- A recipe for the instances of one proxy type. -/
structure Handle where
  platform : Platform
  type : ProxyType
  /-- The type has a constructor that takes a dispatch handler. -/
  constructible : type.constructor.isSome = true
deriving DecidableEq

/-- A handle on a type, which needs a constructor that takes a dispatch handler. -/
def Handle.of (p : Platform) (t : ProxyType) : Except BridgeError Handle :=
  if h : t.constructor.isSome then .ok ⟨p, t, h⟩
  else .error (.illegalState (t.name ++ " has no handler constructor") none)

/-- What a failure to make an instance of `t` means for the caller of a bridge. What the constructor
    itself raised is a script error; any other failure is a broken invariant. -/
def BridgeError.ofInstantiation (t : ProxyType) : InstantiationError → BridgeError
  | .raised e => .script e
  | e => .illegalState ("cannot instantiate " ++ t.name) (some e)

/-- Make the instance number `next` through a handle. -/
def Handle.instantiate {η : Type} (h : Handle) (handler : η) (next : Nat) :
    Except BridgeError (Proxy η) × Nat :=
  let (r, next') := h.platform.instantiate h.type handler next
  (r.mapError (.ofInstantiation h.type), next')

/-- What an instance made by the bridge captures. -/
def Bridge.forwarding {α σ : Type} (b : Bridge σ) (adapter : α) (target : CallTarget)
    (payload : Option Payload) : Forwarding α σ :=
  { target, payload, adapter, services := b.services, warns := b.config.warnUnsupported }

/-- A handle in diagnostics. -/
def Handle.text (h : Handle) : String :=
  "ProxyHandle \x7b type: " ++ Text.quote h.type.name ++ ", interfaces: "
    ++ toString h.type.interfaces.length ++ " \x7d"

/-- A bridge in diagnostics. -/
def Bridge.text {σ : Type} (b : Bridge σ) : String :=
  "DynamicProxyBridge \x7b config: " ++ b.config.text ++ ", .. \x7d"

namespace Foundry

variable (f : Foundry) (alive : Nat → Bool) (p : Platform)

/-- A handle for `is` with a type defined in `d`. -/
def handleIn (d : Domain) (is : List Interface) :
    Except BridgeError Handle × List Note × Foundry :=
  let (r, notes, f') := f.proxyType alive p d is
  match r with
  | .error e => (.error (.construction e), notes, f')
  | .ok t => (Handle.of p t, notes, f')

/-- A handle for `is` with a type defined in the domain of the first interface. -/
def handle (is : List Interface) : Except BridgeError Handle × List Note × Foundry :=
  match is with
  | [] => (.error (.construction .emptyInterfaceSet), [], f)
  | i :: _ => f.handleIn alive p i.domain is

/-- A handle for all interfaces of a class with a type defined in the class's domain. -/
def subclassHandle (c : HostClass) : Except BridgeError Handle × List Note × Foundry :=
  f.handleIn alive p c.domain c.interfaces

/-- The text of a validating platform in diagnostics. -/
def platformText (cached : Bool) (types : Nat) : String :=
  "VtablePlatform \x7b cached: " ++ toString cached ++ ", types: " ++ toString types ++ " \x7d"

end Foundry

end Interop
