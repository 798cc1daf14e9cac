import Interop.Context.Release

namespace Interop

/-!
# Threads at their context cells

Any number of threads get handles to their cells and use them, in any interleaving. A context is a
value of some type, and is read through a test of the type. A handle stays on the thread that got it.

* `downcast` — take a value for one of a given type.
* `Cell.store` — store a context by way of a lent slot; a release that wants the slot makes it fail.
* `Threads`, `Threads.Step`, `Threads.Result`, `Threads.step` — the cells and the handles to them, and
  what a thread can do.
* `Threads.run`, `Threads.trace` — an interleaving of steps, and what the threads observe in it;
  `Threads.reach`, `Threads.observe` — from the start.
* `Threads.lastStored`, `Threads.lastDomain`, `Threads.answer` — what a thread put into its slots last,
  and the answer that it can expect from there.

The cells of all threads are in one state, and a step of one thread could reach the cell of another if
a handle led there. That it never does is proved, and not put into the model: a handle is a pair of
numbers, and a step goes to the cell of whatever owner the handle names. What a thread can expect, on
the other hand, is computed from its own entries alone, without any cell. So the two ways to say what
a step answers share nothing but the test of types and the words for steps and results.
-/

section Downcast

variable {Ty : Type} [DecidableEq Ty] {V : Ty → Type}

/-- Take a value for one of a given type. -/
def downcast (C : Ty) (c : Sigma V) : Option (V C) :=
  if h : c.1 = C then some (h ▸ c.2) else none

/-- The test finds a value of the type, and nothing but what is stored. -/
theorem downcast_eq_some_iff {C : Ty} {c : Sigma V} {v : V C} :
    downcast C c = some v ↔ c = ⟨C, v⟩ := by
  obtain ⟨D, w⟩ := c
  by_cases h : D = C
  · subst h
    simp [downcast]
  · simp [downcast, h]

end Downcast

/-- Store a context in a cell; the former one is released while the slot is lent. The new context is
    there even if the release fails. -/
def Cell.store {α : Type} (release : α → Slot.Use α Unit) (c : Cell α) (context : Option α) :
    Except SlotFault Unit × Cell α :=
  match (Slot.write release context).run ⟨c.context, false⟩ with
  | .ok ((), slot) => (.ok (), { c with context := slot.content })
  | .error fault => (.error fault, c.write context)

/-- Where no release uses the slot, to store a context is to write it. -/
theorem Cell.store_of_idle {α : Type} {release : α → Slot.Use α Unit}
    (h : ∀ a, release a = pure ()) (c : Cell α) (context : Option α) :
    c.store release context = (.ok (), c.write context) := by
  rw [store, Slot.write_of_idle release h]
  rfl

/-- The cells of all threads, and the handles to them. -/
structure Threads {Ty : Type} (V : Ty → Type) where
  cells : Cells (Sigma V) := {}
  /-- Who holds a handle and whose cell it is to, in the order in which they were got. -/
  handles : List (Nat × Nat) := []

namespace Threads

variable {Ty : Type} {V : Ty → Type}

/-- What a thread can do. It names a handle by its place among those that it has got. -/
inductive Step (V : Ty → Type)
  | getCell
  | sameCell (first second : Nat)
  | isSet (handle : Nat)
  | read (handle : Nat) (type : Ty)
  | write (handle : Nat) (context : Option (Sigma V))
  | replace (handle : Nat) (context : Option (Sigma V))
  | domain
  | replaceDomain (domain : Option Domain)

/-- What a thread observes. -/
inductive Result (V : Ty → Type)
  /-- The place of a new handle. -/
  | gotCell (handle : Nat)
  | sameCell (answer : Bool)
  | isSet (answer : Bool)
  | read (type : Ty) (context : Option (V type))
  | wrote (answer : Except SlotFault Unit)
  | former (context : Option (Sigma V))
  | domain (domain : Option Domain)
  | formerDomain (domain : Option Domain)
  /-- The thread has not got that handle. -/
  | noHandle

variable (w : Threads V)

/-- The owners of the cells to which a thread has handles. -/
def handlesOf (t : Nat) : List Nat :=
  (w.handles.filter (·.1 == t)).map (·.2)

/-- Look at the cell behind a handle. -/
def look (t handle : Nat) (see : Cell (Sigma V) → Result V) : Result V × Threads V :=
  match (w.handlesOf t)[handle]? with
  | none => (.noHandle, w)
  | some owner => (see (w.cells.get owner), w)

/-- Change the cell behind a handle. -/
def change (t handle : Nat) (f : Cell (Sigma V) → Result V × Cell (Sigma V)) :
    Result V × Threads V :=
  match (w.handlesOf t)[handle]? with
  | none => (.noHandle, w)
  | some owner =>
    let (result, cell) := f (w.cells.get owner)
    (result, { w with cells := w.cells.set owner cell })

variable [DecidableEq Ty] (release : Sigma V → Slot.Use (Sigma V) Unit)

/-- One step of a thread. -/
def step (t : Nat) : Step V → Result V × Threads V
  | .getCell =>
    -- The new handle is to the cell of the thread that asks, and to no other.
    (.gotCell (w.handlesOf t).length, { w with handles := w.handles ++ [(t, t)] })
  | .sameCell first second =>
    match (w.handlesOf t)[first]?, (w.handlesOf t)[second]? with
    | some owner, some other => (.sameCell (owner == other), w)
    | _, _ => (.noHandle, w)
  | .isSet handle => w.look t handle fun cell => .isSet cell.isSet
  | .read handle C => w.look t handle fun cell => .read C (cell.readAs (downcast C))
  | .write handle context => w.change t handle fun cell =>
    let (answer, cell) := cell.store release context
    (.wrote answer, cell)
  | .replace handle context => w.change t handle fun cell =>
    let (former, cell) := cell.replace context
    (.former former, cell)
  | .domain => (.domain (w.cells.get t).domain, w)
  | .replaceDomain domain =>
    let (former, cell) := (w.cells.get t).replaceDomain domain
    (.formerDomain former, { w with cells := w.cells.set t cell })

/-- The threads after an interleaving of steps. -/
def run (schedule : List (Nat × Step V)) : Threads V :=
  schedule.foldl (fun w s => (w.step release s.1 s.2).2) w

/-- A step of a thread, and what it observed. -/
structure Entry (V : Ty → Type) where
  thread : Nat
  step : Step V
  result : Result V

/-- What the threads observe in an interleaving of steps. -/
def trace : Threads V → List (Nat × Step V) → List (Entry V)
  | _, [] => []
  | w, (t, s) :: schedule =>
    ⟨t, s, (w.step release t s).1⟩ :: trace (w.step release t s).2 schedule

/-- Of two interleavings in a row, the second is observed where the first leads. -/
theorem trace_append (first second : List (Nat × Step V)) :
    w.trace release (first ++ second) =
      w.trace release first ++ (w.run release first).trace release second := by
  induction first generalizing w with
  | nil => rfl
  | cons s first ih =>
    rw [List.cons_append, trace, ih]
    rfl

/-- The threads after an interleaving of steps from the start. -/
def reach (schedule : List (Nat × Step V)) : Threads V :=
  run {} release schedule

/-- What the threads observe in an interleaving of steps from the start. -/
def observe (schedule : List (Nat × Step V)) : List (Entry V) :=
  trace release {} schedule

/-! ### What a thread can expect

The entries of a thread tell what it stored and set, and in which order. An entry without effect, such
as a step through a handle that the thread has not got, counts for nothing.
-/

/-- Whether the step is about handles or contexts. The others are about domains. -/
def Step.onContext : Step V → Bool
  | .domain | .replaceDomain _ => false
  | _ => true

/-- The entries of one thread. -/
def own (t : Nat) (es : List (Entry V)) : List (Entry V) :=
  es.filter (·.thread == t)

/-- The context that a step has stored. -/
def Entry.stored? (e : Entry V) : Option (Option (Sigma V)) :=
  match e.step, e.result with
  | .write _ context, .wrote _ => some context
  | .replace _ context, .former _ => some context
  | _, _ => none

/-- The domain that a step has set. -/
def Entry.domain? (e : Entry V) : Option (Option Domain) :=
  match e.step with
  | .replaceDomain domain => some domain
  | _ => none

/-- Whether the step has got a handle. -/
def Entry.gotCell (e : Entry V) : Bool :=
  match e.step with
  | .getCell => true
  | _ => false

/-- What a slot holds after entries that put into it what `put` says. -/
def latest {α : Type} (put : Entry V → Option (Option α)) (es : List (Entry V)) : Option α :=
  es.foldl (fun held e => (put e).getD held) none

/-- The context that was stored last. -/
def lastStored (es : List (Entry V)) : Option (Sigma V) :=
  latest Entry.stored? es

/-- The domain that was set last. -/
def lastDomain (es : List (Entry V)) : Option Domain :=
  latest Entry.domain? es

/-- The answer that a thread can expect after the entries `es` of its own. -/
def answer (es : List (Entry V)) : Step V → Result V
  | .getCell => .gotCell (es.countP (·.gotCell))
  | .sameCell first second =>
    if first < es.countP (·.gotCell) ∧ second < es.countP (·.gotCell) then .sameCell true
    else .noHandle
  | .isSet handle =>
    if handle < es.countP (·.gotCell) then .isSet (lastStored es).isSome else .noHandle
  | .read handle C =>
    if handle < es.countP (·.gotCell) then .read C ((lastStored es).bind (downcast C))
    else .noHandle
  | .write handle _ => if handle < es.countP (·.gotCell) then .wrote (.ok ()) else .noHandle
  | .replace handle _ =>
    if handle < es.countP (·.gotCell) then .former (lastStored es) else .noHandle
  | .domain => .domain (lastDomain es)
  | .replaceDomain _ => .formerDomain (lastDomain es)

end Threads

end Interop
