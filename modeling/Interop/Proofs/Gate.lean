import Interop.Access.Member
import Interop.Method

namespace Interop

/-!
# Members behind a gate

A host reflects members under policies, hands out copies of their handles, opens members up and
closes them again, and changes its policies in between, all in any order.

* `Gate` — the policies and flags, the handles in circulation, and every touch of a flag so far.
* `Member.watched` — a member whose touches are written down; `Gate.elevate` elevates such a member.
* `Gate.elevate_eq` — an elevation looks at the flag, tries to raise it if it is down, and looks again.
* `Gate.Move`, `Gate.step`, `Gate.run` — what a host can do, and any sequence of it from the start.

The record of touches is the model's own. No member and no policy reads it; it is there so that one
can say what the last call was that changed a flag, and whether it was refused. To have it written
down wherever a flag can be touched, also in the middle of an elevation, the access mode of a member
is wrapped, and an elevation runs on the wrapped member as it would on any other.
-/

/-- A call that was to change the flag of a number, with its answer. -/
structure Touch where
  serial : Nat
  flag : Bool
  answer : Except AccessDenied Unit

/-- Whether the touch changed the flag of that number. -/
def Touch.settles (t : Touch) (n : Nat) : Bool :=
  t.serial == n && t.answer.isOk

/-- A host with members under policies. -/
structure Gate where
  access : AccessState := {}
  /-- The handles in circulation. The clones of a handle are equal to it. -/
  handles : List Member := []
  /-- The touches so far, the latest first. -/
  touches : List Touch := []
  /-- What elevations wrote to the log, the latest first. -/
  notes : List ElevationNote := []

/-- Programs of members behind a gate. -/
abbrev Gating := ExceptT Panic (StateM Gate)

/-- The part of a gate that decides about access. -/
instance : MonadStateOf AccessState (StateM Gate) where
  get := do return (← getThe Gate).access
  set access := modifyThe Gate ({ · with access })
  modifyGet f := modifyGetThe Gate fun g =>
    let (a, access) := f g.access
    (a, { g with access })

/-- The access mode with a record of every touch. -/
def AccessMode.watched (a : AccessMode Gating) (serial : Nat) : AccessMode Gating where
  isAccessible := a.isAccessible
  setAccessible flag := do
    let answer ← a.setAccessible flag
    modifyThe Gate fun g => { g with touches := ⟨serial, flag, answer⟩ :: g.touches }
    return answer

/-- The member as foreign code sees it, with a record of every touch. -/
def Member.watched (m : Member) : Reflected Gating :=
  { m.reflect with
    accessMode := do
      let mode ← m.reflect.accessMode
      return mode.map (·.watched m.serial) }

namespace Gate

variable (g : Gate)

/-- Whether a handle says that its member is accessible. -/
def accessible (m : Member) : Bool :=
  g.access.flag m.serial

/-- Set a member's flag through a handle. -/
def setAccessible (m : Member) (flag : Bool) : Except AccessDenied Unit × Gate :=
  let (answer, access) := g.access.setAccessible m flag
  (answer, { g with access, touches := ⟨m.serial, flag, answer⟩ :: g.touches })

/-- Write a note about an elevation. -/
def write (note : ElevationNote) : Gate :=
  { g with notes := note :: g.notes }

/-- The log of elevations, if there is one. -/
def log (logging : Bool) : Option (ElevationNote → Gating Unit) :=
  if logging then some fun note => modifyThe Gate (·.write note) else none

/-- Try to make a member accessible through a handle, with or without a log. -/
def elevate (m : Member) (logging : Bool) : Except Panic Bool × Gate :=
  (Interop.elevate (log logging) m.watched).run.run g

/-- The flag to which the last touch that took effect set the member of that number. -/
def lastSet (n : Nat) : Option Bool :=
  (g.touches.find? (·.settles n)).map (·.flag)

/-! ### An elevation, step by step

Elevations are written for members of any kind, whose code may panic. The members here are the host's
own, so each step of an elevation is a function of the gate, and the elevation comes to one look, one
attempt and another look.
-/

variable (m : Member) (logging : Bool)

/-- To look at the flag changes nothing. -/
theorem run_isAccessible : (m.accessMode.watched m.serial).isAccessible.run.run g =
    (.ok (g.accessible m), g) := rfl

/-- To set the flag from inside an elevation is to set it through the handle. -/
theorem run_setAccessible (flag : Bool) :
    ((m.accessMode.watched m.serial).setAccessible flag).run.run g =
      (.ok (g.setAccessible m flag).1, (g.setAccessible m flag).2) := rfl

/-- A note is written where there is a log. -/
theorem run_report (note : String → ElevationNote) :
    (report (log logging) m.watched note).run.run g =
      (.ok (), if logging then g.write (note m.name) else g) := by
  cases logging <;> rfl

/-- The gate after an attempt to raise the member's flag; a refusal is noted where there is a log. -/
def raise : Gate :=
  match g.setAccessible m true with
  | (.ok (), g') => g'
  | (.error e, g') => if logging then g'.write (.refused m.name e) else g'

/-- An attempt looks at the flag, tries to raise it if it is down, and looks again. -/
theorem run_attempt :
    (attempt (log logging) m.watched (m.accessMode.watched m.serial)).run.run g =
      if g.accessible m then (.ok true, g)
      else (.ok ((g.raise m logging).accessible m), g.raise m logging) := by
  unfold attempt
  rw [Panicking.run_bind, run_isAccessible]
  by_cases hflag : g.accessible m = true
  · simp only [hflag, if_true]
    rfl
  · simp only [hflag, Bool.false_eq_true, if_false]
    rw [Panicking.run_bind, run_setAccessible]
    -- A refusal is answered like a success, by a look at the flag; only the note differs.
    unfold raise
    rcases g.setAccessible m true with ⟨e | u, g'⟩
    · dsimp only
      rw [Panicking.run_bind, run_report]
      rfl
    · rfl

/-- An elevation of a member with an access mode is an attempt, and no panic escapes from it. -/
theorem elevate_eq {m : Member} (hm : m.supported = true) :
    g.elevate m logging =
      if g.accessible m then (.ok true, g)
      else (.ok ((g.raise m logging).accessible m), g.raise m logging) := by
  -- A member with an access mode hands it out wrapped, and nothing on the way to it can panic.
  have hmode : m.watched.accessMode = pure (some (m.accessMode.watched m.serial)) := by
    simp only [Member.watched, Member.reflect, hm, if_true, pure_bind, Option.map_some]
  unfold elevate Interop.elevate
  rw [hmode, pure_bind, Panicking.run_tryCatch, run_attempt]
  by_cases hflag : g.accessible m = true
  · simp only [if_pos hflag]
  · simp only [if_neg hflag]

end Gate

/-! ### Moves

A move names a handle by its place, and does nothing if there is none; so every list of moves is a
run.
-/

/-- What a handle reflects. -/
inductive MemberOrigin
  | field (declaring name : String)
  | method (m : Method)
  | constructor (declaring : String) (params : List Ty) (variadic : Bool)

/-- Reflect a member under the policy of a number. Constructors have a name of their own. -/
def AccessState.reflectFrom (s : AccessState) (visibility : Visibility) (policy : Nat) :
    MemberOrigin → Member × AccessState
  | .field declaring name => s.reflect declaring name .field visibility [] false policy
  | .method m => s.reflect m.declaring m.name .method visibility m.params m.variadic policy
  | .constructor declaring params variadic =>
    s.reflect declaring "<init>" .constructor visibility params variadic policy

namespace Gate

/-- What a host can do. A place is a position among the handles in circulation. -/
inductive Move
  | policy (p : Policy)
  | reflect (o : MemberOrigin) (visibility : Visibility) (policy : Nat)
  | clone (place : Nat)
  | drop (place : Nat)
  | elevate (place : Nat) (logging : Bool)
  | setAccessible (place : Nat) (flag : Bool)
  | setType (policy : Nat) (typeName : String) (permission : Permission)
  | addRule (policy : Nat) (rule : Rule)

variable (g : Gate)

/-- Do something with the handle at a place, if there is one. -/
def withHandle (place : Nat) (f : Member → Gate) : Gate :=
  match g.handles[place]? with
  | none => g
  | some m => f m

/-- Reflect a member under a policy, if there is one of that number. -/
def reflect (o : MemberOrigin) (visibility : Visibility) (policy : Nat) : Gate :=
  if policy < g.access.policies.length then
    let (m, access) := g.access.reflectFrom visibility policy o
    { g with access, handles := m :: g.handles }
  else g

/-- The gate after a move. A move to a place without a handle, or under a policy that was never made,
    does nothing. -/
def step : Move → Gate
  | .policy p => { g with access := (g.access.addPolicy p).2 }
  | .reflect o visibility policy => g.reflect o visibility policy
  | .clone place => g.withHandle place fun m => { g with handles := m :: g.handles }
  | .drop place => { g with handles := g.handles.eraseIdx place }
  | .elevate place logging => g.withHandle place fun m => (g.elevate m logging).2
  | .setAccessible place flag => g.withHandle place fun m => (g.setAccessible m flag).2
  | .setType policy typeName permission =>
    { g with access := g.access.updatePolicy policy (·.setType typeName permission) }
  | .addRule policy rule => { g with access := g.access.updatePolicy policy (·.addRule rule) }

/-- The gate after moves in order from the start. -/
def run (ms : List Move) : Gate :=
  ms.foldl step {}

/-- A run with one more move. -/
theorem run_concat (ms : List Move) (m : Move) : run (ms ++ [m]) = (run ms).step m := by
  rw [run, List.foldl_append]
  rfl

end Gate

end Interop
