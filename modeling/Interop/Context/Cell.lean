import Interop.Domain
import Interop.Lookup

namespace Interop

/-!
# Context cells

Every thread has one cell: a slot for the context that is active on the thread and a slot for the
domain in which it looks up application types. The slots know nothing of each other, and a context
is read through a test of its type.

* `Cell` — the two slots of a thread; `Cell.readAs`, `Cell.write`, `Cell.replace`,
  `Cell.replaceDomain`.
* `Cells` — the cells of all threads; a thread that has not used its cell has an empty one.
-/

/-- The slots of one thread, over contexts `α`. -/
structure Cell (α : Type) where
  context : Option α := none
  domain : Option Domain := none

namespace Cell

variable {α β : Type} (c : Cell α)

/-- Read the stored context as what `test` takes it for. -/
def readAs (test : α → Option β) : Option β :=
  c.context.bind test

/-- Store a context, or clear the slot. -/
def write (context : Option α) : Cell α :=
  { c with context }

/-- Store a context and give back what was stored before. -/
def replace (context : Option α) : Option α × Cell α :=
  (c.context, c.write context)

/-- Whether a context of any type is stored. -/
def isSet : Bool :=
  c.context.isSome

/-- A cell in diagnostics. -/
def text : String :=
  "CellHandle \x7b cell: PTR, is_set: " ++ toString c.isSet ++ " \x7d"

/-- Set the domain and give back the one before. -/
def replaceDomain (domain : Option Domain) : Option Domain × Cell α :=
  (c.domain, { c with domain })

/-- What was replaced, put back, restores the cell. -/
@[simp] theorem write_replace (context : Option α) :
    (c.replace context).2.write (c.replace context).1 = c := rfl

end Cell

/-- The cells of the running threads, by thread number. -/
structure Cells (α : Type) where
  used : List (Nat × Cell α) := []

namespace Cells

variable {α : Type} (cs : Cells α)

/-- The cell of a thread. -/
def get (thread : Nat) : Cell α :=
  (cs.used.lookup thread).getD {}

/-- Put a cell in place of the thread's. -/
def set (thread : Nat) (c : Cell α) : Cells α :=
  ⟨(thread, c) :: cs.used.filter (·.1 != thread)⟩

/-- The end of a thread: its cell goes with it. -/
def exit (thread : Nat) : Cells α :=
  ⟨cs.used.filter (·.1 != thread)⟩

/-- A thread finds the cell that was put in place of its own. -/
@[simp] theorem get_set_self (thread : Nat) (c : Cell α) : (cs.set thread c).get thread = c := by
  simp [get, set]

/-- The cells of other threads are as before. -/
theorem get_set_of_ne {thread other : Nat} (h : other ≠ thread) (c : Cell α) :
    (cs.set thread c).get other = cs.get other := by
  simp [get, set, List.lookup_cons, beq_false_of_ne h, lookup_filter_of_ne h]

/-- After the end of a thread its number has an empty cell. -/
@[simp] theorem get_exit_self (thread : Nat) : (cs.exit thread).get thread = {} := by
  simp [get, exit]

/-- Other threads keep theirs. -/
theorem get_exit_of_ne {thread other : Nat} (h : other ≠ thread) :
    (cs.exit thread).get other = cs.get other := by
  simp [get, exit, lookup_filter_of_ne h]

/-- The stored contexts of all threads. -/
def contexts : List α :=
  cs.used.filterMap (·.2.context)

end Cells

end Interop
