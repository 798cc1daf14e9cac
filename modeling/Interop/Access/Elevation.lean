import Interop.Error

namespace Interop

/-!
# Elevation

When a look-up of a member fails for want of visibility, the engine tries to make the member
accessible and goes on with what it finds afterwards. The member is foreign code: each of its
operations is a program of a monad `m` that may have effects and may panic.

* `Panicking` — such programs over a state, with `Panicking.run_bind` and `Panicking.run_tryCatch`.
* `AccessMode`, `Reflected` — what a reflected member lets its caller do.
* `elevate` — the attempt, with every refusal and panic inside it folded into `false`.

What is guarded against panics is the attempt, and nothing before or after it. The member is asked for
its access mode first, and in the handler of a caught panic it is asked for its name where there is a
log. A panic in either of these goes through.
-/

/-- A panic of foreign code. -/
inductive Panic
  | panic
deriving DecidableEq

/-- Programs over a state `σ` that may panic. A panic keeps what was done to the state before it. -/
abbrev Panicking (σ : Type) := ExceptT Panic (StateM σ)

namespace Panicking

variable {σ α β : Type}

/-- A program that goes on with the answer of another one. -/
theorem run_bind (p : Panicking σ α) (f : α → Panicking σ β) (s : σ) :
    (p >>= f).run.run s =
      match p.run.run s with
      | (.ok a, s') => (f a).run.run s'
      | (.error e, s') => (.error e, s') := by
  rw [ExceptT.run_bind, StateT.run_bind]
  rcases p.run.run s with ⟨e | a, s'⟩ <;> rfl

/-- A program whose panic is caught. -/
theorem run_tryCatch (p : Panicking σ α) (handler : Panic → Panicking σ α) (s : σ) :
    (tryCatchThe Panic p handler).run.run s =
      match p.run.run s with
      | (.ok a, s') => (.ok a, s')
      | (.error e, s') => (handler e).run.run s' := by
  show (ExceptT.tryCatch p handler).run.run s = _
  rw [ExceptT.tryCatch, ExceptT.run_mk, StateT.run_bind]
  show (bind (m := Id) (p.run.run s) _) = _
  rcases p.run.run s with ⟨e | a, s'⟩ <;> rfl

end Panicking

/-- The capability to change a member's access mode. -/
structure AccessMode (m : Type → Type) where
  isAccessible : m Bool
  setAccessible : Bool → m (Except AccessDenied Unit)

/-- A reflected member. -/
structure Reflected (m : Type → Type) where
  name : m String
  isVariadic : m Bool
  /-- The access mode, if members of this sort have one. -/
  accessMode : m (Option (AccessMode m))

/-- What an elevation writes to the log, under the member's name. -/
inductive ElevationNote
  | refused (member : String) (error : AccessDenied)
  | panicked (member : String)
deriving DecidableEq

/-- The name of the member that the note is about. -/
def ElevationNote.member : ElevationNote → String
  | refused n _ => n
  | panicked n => n

/-- The wording of a note. -/
def ElevationNote.message : ElevationNote → String
  | refused _ e => "elevation refused: " ++ e.message
  | panicked _ => "elevation attempt panicked"

section

variable {m : Type → Type} [Monad m]

/-- Write a note if there is a log; only then is the member asked for its name. -/
def report (log : Option (ElevationNote → m Unit)) (r : Reflected m)
    (note : String → ElevationNote) : m Unit :=
  match log with
  | none => pure ()
  | some write => do write (note (← r.name))

/-- The guarded part of an elevation: a member that is already accessible is left alone, and after
    an attempt the member is looked at again, whatever the attempt said. -/
def attempt (log : Option (ElevationNote → m Unit)) (r : Reflected m) (a : AccessMode m) :
    m Bool := do
  if ← a.isAccessible then return true
  match ← a.setAccessible true with
  | .error e => report log r (.refused · e)
  | .ok () => pure ()
  a.isAccessible

/-- Try to make a member accessible, and tell whether it is. -/
def elevate [MonadExceptOf Panic m] (log : Option (ElevationNote → m Unit)) (r : Reflected m) :
    m Bool := do
  match ← r.accessMode with
  | none => return false
  | some a =>
    tryCatchThe Panic (attempt log r a) fun _ => do
      report log r .panicked
      return false

end

end Interop
