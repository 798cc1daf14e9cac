import Interop.Context.Cell
import Interop.Session.Thing

namespace Interop.Session

/-!
# The state of a session

* `Event` — what a step makes happen, as an observer sees it.
* `World` — all that a session has made, and who holds it: nothing is alive that no name reaches.
* `Run` — programs over a world; `record`, `mention`, `bind` and the like are the steps they take.
-/

/-- How urgent a log entry is. -/
inductive Level
  | trace
  | debug
  | warn
deriving DecidableEq

/-- An entry of the log. -/
structure LogEntry where
  level : Level
  target : String
  message : String
  fields : List (String × String)

/-- What an observer of a session sees. -/
inductive Event
  /-- An adapter was called. -/
  | called (target : CallTarget) (payload : Option Payload) (method : Method) (args : List Value)
  /-- A handler of the session's own was called. -/
  | handled (proxy : Nat) (method : Method) (args : List Value)
  | warned (text : String)
  /-- The engine was asked to convert no value. -/
  | coerced (t : Ty)
  /-- A foreign member was asked for its flag. -/
  | looked
  /-- A foreign member was told to change its flag. -/
  | touched (flag : Bool)
  | logged (entry : LogEntry)

/-- All that a session has made. -/
structure World where
  /-- Whether there is a log. -/
  logging : Bool
  names : List (String × Thing) := []
  forest : Forest := {}
  /-- The number of the next interface, like those below exact as long as it fits in 64 bits. -/
  nextInterface : Nat := 1
  /-- The platform behind number zero is the one shared process-wide. -/
  foundry : Foundry := { caches := [{}] }
  nextProxy : Nat := 1
  /-- The latest object of each label, and whether the session still holds it. -/
  objects : List (String × Object × Bool) := []
  nextObject : Nat := 0
  /-- The number of calls of each adapter. -/
  calls : List Nat := []
  access : AccessState := {}
  cells : Cells Context := {}
  thread : Nat := 0
  nextThread : Nat := 1
  nextContext : Nat := 0
  /-- What happened during the step, the latest first. -/
  events : List Event := []

namespace World

variable (w : World)

/-- The things that have a name. -/
def things : List Thing :=
  w.names.map (·.2)

/-- The instances that have a name. -/
def proxies : List (Proxy Handler) :=
  w.things.filterMap Thing.proxy?

/-- Whether somebody holds the type of that number. -/
def holdsType (id : Nat) : Bool :=
  w.things.any fun t => t.type?.any (·.id == id)

/-- Whether something with a name keeps the object alive. -/
def holdsObject (o : Object) : Bool :=
  w.things.any (·.holds.contains o)

/-- The number of references to a context: from names and from the cells of threads. -/
def contextRefs (c : Context) : Nat :=
  (w.things.filterMap Thing.context?).count c + w.cells.contexts.count c

/-- The cell of the running thread. -/
def cell : Cell Context :=
  w.cells.get w.thread

end World

/-- A program over a world. -/
abbrev Run := StateM World

/-- The part of a world that decides about access. -/
instance : MonadStateOf AccessState Run where
  get := do return (← getThe World).access
  set a := modifyThe World ({ · with access := a })
  modifyGet f := modifyGetThe World fun w =>
    let (a, s) := f w.access
    (a, { w with access := s })

/-! ### Events -/

/-- Add an event to those of the step. -/
def record (e : Event) : Run Unit :=
  modifyThe World fun w => { w with events := e :: w.events }

/-- Write to the log, if there is one. -/
def log (level : Level) (target message : String) (fields : List (String × String)) : Run Unit := do
  if (← getThe World).logging then record (.logged ⟨level, target, message, fields⟩)

/-- The log entry for what a platform reports. -/
def reportNote : Note → Run Unit
  | .hit proxy => log .debug "raya_bridge::proxy::platform" "proxy type cache hit" [("proxy", proxy)]
  | .pruned n =>
    log .debug "raya_bridge::proxy::platform" "dropped unused proxy types from cache"
      [("pruned", toString n)]
  | .synthesized t =>
    log .debug "raya_bridge::proxy::platform" "synthesized proxy type"
      [("domain", t.domain.name), ("interfaces", toString t.interfaces.length), ("proxy", t.name),
        ("slots", toString t.table.size)]

/-! ### Names and objects -/

/-- What a name stands for. -/
def lookup (name : String) : Run (Option Thing) := do
  return (← getThe World).names.lookup name

/-- Let a name stand for a thing, and for nothing else any more. -/
def bind (name : String) (t : Thing) : Run Unit :=
  modifyThe World fun w =>
    { w with names := (name, t) :: w.names.filter (·.1 != name) }

/-- Forget a name, and tell whether it stood for something. -/
def forget (name : String) : Run Bool :=
  modifyGetThe World fun w =>
    ((w.names.lookup name).isSome, { w with names := w.names.filter (·.1 != name) })

/-- The object of a label: the one that the session holds, or a new one that it holds from now on. -/
def mention (label : String) : Run Object :=
  modifyGetThe World fun w =>
    match w.objects.lookup label with
    | some (o, true) => (o, w)
    | _ =>
      let o : Object := ⟨w.nextObject, label⟩
      (o, { w with
        objects := (label, o, true) :: w.objects.filter (·.1 != label)
        nextObject := w.nextObject + 1 })

/-- Stop holding the object of a label, and tell whether the session held it. -/
def release (label : String) : Run Bool :=
  modifyGetThe World fun w =>
    match w.objects.lookup label with
    | some (o, true) =>
      (true, { w with objects := (label, o, false) :: w.objects.filter (·.1 != label) })
    | _ => (false, w)

/-- Whether the latest object of a label is alive, if there ever was one. -/
def isAlive (label : String) : Run (Option Bool) := do
  let w ← getThe World
  match w.objects.lookup label with
  | none => return none
  | some (o, held) => return some (held || w.holdsObject o)

/-- The value that a literal stands for. -/
def Literal.value : Literal → Run Value
  | plain v => return v
  | object label => return .object (← mention label)

/-- Use the foundry, and report what the platform reports. -/
def withFoundry {α : Type} (f : Foundry → (Nat → Bool) → α × List Note × Foundry) : Run α := do
  let w ← getThe World
  let (a, notes, foundry) := f w.foundry w.holdsType
  modifyThe World ({ · with foundry })
  notes.forM reportNote
  return a

/-- Make an instance with the next number. -/
def newProxy {ε : Type} (make : Nat → Except ε (Proxy Handler) × Nat) :
    Run (Except ε (Proxy Handler)) :=
  modifyGetThe World fun w =>
    let (r, nextProxy) := make w.nextProxy
    (r, { w with nextProxy })

/-- Give a new adapter a count of its calls. -/
def newAdapter (methods : List (String × Behaviour)) (otherwise : Option Behaviour) : Run Adapter :=
  modifyGetThe World fun w =>
    (⟨w.calls.length, methods, otherwise⟩, { w with calls := w.calls ++ [0] })

/-- Count a call of an adapter, and give the number of calls with this one. -/
def countCall (a : Adapter) : Run Nat :=
  modifyGetThe World fun w =>
    let n := w.calls.getD a.serial 0 + 1
    (n, { w with calls := w.calls.set a.serial n })

/-- Change the cell of the running thread. -/
def withCell {α : Type} (f : Cell Context → α × Cell Context) : Run α :=
  modifyGetThe World fun w =>
    let (a, c) := f w.cell
    (a, { w with cells := w.cells.set w.thread c })

end Interop.Session
