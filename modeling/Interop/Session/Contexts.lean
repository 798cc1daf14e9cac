import Interop.Session.Reply

namespace Interop.Session

/-!
# Steps on contexts

* `ContextStep` — make contexts, and use the cell of the running thread.
-/

/-- A step on contexts and cells. -/
inductive ContextStep
  | context (data : Arg ContextData)
  | refs (context : Arg String)
  | write (context : Option String)
  | read
  /-- Replace the stored context by a named one, a saved slot or nothing, and save the former slot
      under a name if there is one. -/
  | replace (context saveAs : Option String)
  | domain
  | replaceDomain (domain : Option String)

/-- Make a context. -/
def makeContext (data : ContextData) : Run Context :=
  modifyGetThe World fun w => (⟨w.nextContext, data⟩, { w with nextContext := w.nextContext + 1 })

/-- Store a context on the running thread, or clear its slot. -/
def writeContext (c : Option Context) : Run Unit :=
  withCell fun cell => ((), cell.write c)

/-- Store a context on the running thread, and give back the one before. -/
def replaceContext (c : Option Context) : Run (Option Context) :=
  withCell (·.replace c)

/-- Set the domain of the running thread, and give back the one before. -/
def replaceDomain (d : Option Domain) : Run (Option Domain) :=
  withCell (·.replaceDomain d)

/-- What a name puts into a context slot. -/
def findSlot : String → Answering (Option Context) :=
  find fun
    | .context c => some (some c)
    | .saved slot => some slot
    | _ => none

/-- Carry out a step on contexts. -/
def performContext : ContextStep → Answering Outcome
  | .context data => do
    return (.ok, some (.context (← makeContext (← data))))
  | .refs context => do
    let c ← findContext (← context)
    return (.refs ((← getThe World).contextRefs c), none)
  | .write context => do
    let c ← context.mapM findContext
    writeContext c
    return (.ok, none)
  | .read => do
    let cell := (← getThe World).cell
    return (.read (cell.readAs (·.data.number?)) (cell.readAs (·.data.text?)) cell.isSet, none)
  | .replace context saveAs => do
    let slot ← match context with
      | none => pure none
      | some name => findSlot name
    let previous ← replaceContext slot
    saveAs.forM fun name => (bind name (.saved previous) : Run Unit)
    return (.previousContext previous, none)
  | .domain => do
    return (.domain (← getThe World).cell.domain, none)
  | .replaceDomain domain => do
    let d ← domain.mapM findDomain
    return (.previousDomain (← replaceDomain d), none)

end Interop.Session
