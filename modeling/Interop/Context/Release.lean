import Interop.Context.Cell

namespace Interop

/-!
# Releasing what a slot held

A context that loses its last reference is released, and what a release does is the context's own
affair: it may use the slot that held it. A slot is lent out while it is being changed, and any use
of a lent slot fails.

* `Slot`, `Slot.Use` — a context slot, and programs on it.
* `Slot.read`, `Slot.replace` — the uses that leave nothing to release.
* `Slot.write` — store a context; the former one is released while the slot is still lent.
* `Slot.write_of_idle` — as long as releases do nothing, this is what `Cell.write` does to a cell.
-/

/-- The slot for a context `α`. -/
structure Slot (α : Type) where
  content : Option α := none
  /-- Whether somebody is changing the slot. -/
  lent : Bool := false
deriving DecidableEq

/-- The failure to use a slot that is lent. -/
inductive SlotFault
  | lent
deriving DecidableEq

namespace Slot

variable {α : Type}

/-- Programs on a slot. -/
abbrev Use (α : Type) := StateT (Slot α) (Except SlotFault)

/-- The content of a slot that is not lent. -/
def read : Use α (Option α) := do
  let s ← get
  if s.lent then throw .lent
  return s.content

/-- Borrow the slot for a change. -/
def lend : Use α Unit := do
  if (← get).lent then throw .lent
  modify ({ · with lent := true })

/-- Give a borrowed slot back. -/
def giveBack : Use α Unit :=
  modify ({ · with lent := false })

/-- Change the content of a borrowed slot, and take the former one out. -/
def exchange (context : Option α) : Use α (Option α) :=
  modifyGet fun s => (s.content, { s with content := context })

/-- Store a context and hand out the former one. -/
def replace (context : Option α) : Use α (Option α) := do
  lend
  let former ← exchange context
  giveBack
  return former

variable (release : α → Use α Unit)

/-- Store a context and release the former one before the slot is given back. -/
def write (context : Option α) : Use α Unit := do
  lend
  let former ← exchange context
  former.forM release
  giveBack

/-- Store a context, and release the former one when the slot is free again. -/
def replaceAndRelease (context : Option α) : Use α Unit := do
  (← replace context).forM release

/-- Where releases do nothing, to write to the slot is to write to the cell. -/
theorem write_of_idle (h : ∀ a, release a = pure ()) (c : Cell α) (context : Option α) :
    (write release context).run ⟨c.context, false⟩ = .ok ((), ⟨(c.write context).context, false⟩) := by
  cases hc : c.context <;> simp [write, lend, exchange, giveBack, h] <;> rfl

/-- So is to replace the content and to release it then. -/
theorem replaceAndRelease_of_idle (h : ∀ a, release a = pure ()) (c : Cell α)
    (context : Option α) :
    (replaceAndRelease release context).run ⟨c.context, false⟩ =
      .ok ((), ⟨(c.write context).context, false⟩) := by
  cases hc : c.context <;> simp [replaceAndRelease, replace, lend, exchange, giveBack, h] <;> rfl

end Slot

end Interop
