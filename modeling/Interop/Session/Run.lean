import Interop.Session.Access
import Interop.Session.Contexts
import Interop.Session.Descriptors
import Interop.Session.Proxies

namespace Interop.Session

/-!
# Running a session

* `Step` — a step of any family, or steps on a thread of their own.
* `keep` — store what a step made under the name that the step has to give for it.
* `run` — the reports on the steps of a session, from an empty world.
-/

/-- A step of any family. -/
inductive Action
  | descriptor (s : DescriptorStep)
  | platform (s : PlatformStep)
  | proxy (s : ProxyStep)
  | access (s : AccessStep)
  | context (s : ContextStep)
  | malformed (c : Complaint)

/-- A step of a session. What an action makes is stored under `store`, once it has succeeded; an
    action that makes nothing needs no such name. -/
inductive Step
  | action (store : Arg String) (a : Action)
  | thread (steps : List Step)

instance : Inhabited Step := ⟨.thread []⟩

/-- What a step answered and made happen. -/
inductive Report
  | action (reply : Reply) (events : List Event)
  | thread (reports : List Report)

/-- Carry out an action. -/
def Action.perform : Action → Answering Outcome
  | descriptor s => performDescriptor s
  | platform s => performPlatform s
  | proxy s => performProxy s
  | access s => performAccess s
  | context s => performContext s
  | malformed c => throw c

/-- Store what an action made. Without a name it is lost again, and the step complains. -/
def keep (store : Arg String) : Outcome → Answering Reply
  | (reply, none) => return reply
  | (reply, some t) => do
    bind (← store) t
    return reply

/-- Carry out an action, store what it makes, and report it. -/
def runAction (store : Arg String) (a : Action) : Run Report := do
  -- Steps on a thread report their own events, so each action starts afresh.
  modifyThe World ({ · with events := [] })
  let reply ← match ← (a.perform >>= keep store).run with
    | .error c => pure (.complaint c)
    | .ok reply => pure reply
  return .action reply (← getThe World).events.reverse

/-- Run a program on a new thread, whose cell goes with it. -/
def onThread {α : Type} (p : Run α) : Run α := do
  let w ← getThe World
  let thread := w.nextThread
  set { w with thread, nextThread := thread + 1 }
  let a ← p
  modifyThe World fun v => { v with thread := w.thread, cells := v.cells.exit thread }
  return a

mutual

/-- Carry out a step and report it. -/
def Step.run : Step → Run Report
  | .action store a => runAction store a
  | .thread steps => do return .thread (← onThread (runAll steps))

/-- Carry out steps in order and report them. -/
def runAll : List Step → Run (List Report)
  | [] => return []
  | s :: ss => do
    let r ← s.run
    return r :: (← runAll ss)

end

/-- The reports on the steps of a session. -/
def run (logging : Bool) (steps : List Step) : List Report :=
  ((runAll steps).run { logging }).1

end Interop.Session
