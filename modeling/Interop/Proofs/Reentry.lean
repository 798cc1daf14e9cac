import Interop.Proofs.Threads

namespace Interop

/-!
# Releases that use the slot

What the release of a context does to the slot that held it is an errand of the context: it reads the
slot, replaces the content, writes over it, and decides by what it finds how to go on. To write over a
context releases it while the slot is lent, and to replace it hands it out first.

* `Errand`, `Errand.test` — what a release does to the slot; `Errand.perform` — as a program on it.
* `Errand.idle` — an errand that leaves the slot alone; `Errand.perform_lent` — no other one can be
  performed on a lent slot.
* `Errand.former` — the errand of what a slot holds; `Errand.outcome`, `Errand.perform_free` — what an
  errand makes of the content of a free slot.
* `Errand.Careful` — an errand that writes over idle contexts only; `Errand.exists_outcome`.
* `Slot.ReleaseLaws`, `Slot.releaseLaws` — when writing completes, and how it compares with releasing
  what a replacement hands out; `Slot.clear_of_test` — a case in which they differ.

A release is foreign code, but of what it does only its dealings with the slot matter here. As a tree
of such dealings it is a datum: a proof about it is an induction on the tree, and a release that
releases another context on the way has the errands of all contexts inside it. Two lemmas say
everything about the performance of an errand, one for a slot that is lent and one for a slot that is
free. On a lent slot the first use fails, whatever it is; so the only errand that a context may have
while it is written over is to do nothing. On a free slot the errand runs, and comes to what `outcome`
computes without any program.
-/

/-- What the release of a context does to a slot for contexts `α`. It ends. -/
inductive Errand (α : Type)
  | done
  | look (next : Option α → Errand α)
  /-- The former content is handed to the errand. -/
  | replace (context : Option α) (next : Option α → Errand α)
  /-- The former content is released on the spot, with an errand of its own. -/
  | write (context : Option α) (inner : α → Errand α) (next : Errand α)

namespace Errand

variable {α : Type}

/-- Ask whether the slot holds a context. -/
def test (next : Bool → Errand α) : Errand α :=
  look fun content => next content.isSome

/-- The errand as a program on the slot. -/
def perform : Errand α → Slot.Use α Unit
  | done => pure ()
  | look next => do (next (← Slot.read)).perform
  | replace context next => do (next (← Slot.replace context)).perform
  | write context inner next => do
    Slot.write (fun a => (inner a).perform) context
    next.perform

/-- Whether the errand leaves the slot alone. -/
def idle : Errand α → Bool
  | done => true
  | _ => false

/-- The errand of the content of a slot; an empty slot has nothing to do. -/
def former (errand : α → Errand α) (content : Option α) : Errand α :=
  content.elim done errand

/-- What the errand makes of the content of a free slot; `none` where it writes over a context that is
    not idle. -/
def outcome : Errand α → Option α → Option (Option α)
  | done, content => some content
  | look next, content => (next content).outcome content
  | replace context next, content => (next content).outcome context
  | write context inner next, content =>
    if (former inner content).idle then next.outcome context else none

/-- Wherever the errand writes, the context that it writes over is idle. -/
def Careful : Errand α → Prop
  | done => True
  | look next => ∀ content, (next content).Careful
  | replace _ next => ∀ content, (next content).Careful
  | write _ inner next => (∀ content, (former inner content).idle) ∧ next.Careful

/-- The only errand that leaves the slot alone is the empty one. -/
theorem eq_done_of_idle {e : Errand α} (h : e.idle = true) : e = done := by
  cases e with
  | done => rfl
  | look | replace | write => exact absurd h Bool.false_ne_true

/-- **A lent slot.** The first use of it fails, so an errand completes iff it has none. -/
theorem perform_lent (e : Errand α) (content : Option α) :
    e.perform.run ⟨content, true⟩ = if e.idle then .ok ((), ⟨content, true⟩) else .error .lent := by
  cases e <;> rfl

end Errand

namespace Slot

variable {α : Type}

/-- A free slot is read without a change. -/
@[simp] theorem read_free (content : Option α) :
    read.run ⟨content, false⟩ = .ok (content, ⟨content, false⟩) := rfl

/-- A replacement hands the former content out, and the slot is free again. -/
@[simp] theorem replace_free (content context : Option α) :
    (replace context).run ⟨content, false⟩ = .ok (content, ⟨context, false⟩) := rfl

/-- To write over a context that is not idle fails. -/
theorem write_free (errand : α → Errand α) (content context : Option α) :
    (write (fun a => (errand a).perform) context).run ⟨content, false⟩ =
      if (Errand.former errand content).idle then .ok ((), ⟨context, false⟩) else .error .lent := by
  cases content with
  | none => rfl
  | some a =>
    -- The slot holds the new context by now and is still lent when the former one is released.
    have h := (errand a).perform_lent context
    show (((errand a).perform.run ⟨context, true⟩).bind fun p => giveBack.run p.2) = _
    rw [h, Errand.former, Option.elim_some]
    cases (errand a).idle <;> rfl

end Slot

namespace Errand

variable {α : Type}

/-- **A free slot.** An errand leaves what its outcome says, or fails where it writes over a context
    that is not idle. -/
theorem perform_free (e : Errand α) (content : Option α) :
    e.perform.run ⟨content, false⟩ =
      (e.outcome content).elim (.error .lent) fun left => .ok ((), ⟨left, false⟩) := by
  -- On the errand: each use hands it a content and leaves another, so both vary.
  induction e generalizing content with
  | done => rfl
  | look next ih =>
    rw [perform, StateT.run_bind, Slot.read_free]
    exact ih content content
  | replace context next ih =>
    rw [perform, StateT.run_bind, Slot.replace_free]
    exact ih content context
  | write context inner next _ ih =>
    rw [perform, StateT.run_bind, Slot.write_free, outcome]
    -- The inner errand met a lent slot and is over by now, so no hypothesis about it is needed.
    cases (former inner content).idle with
    | true => exact ih context
    | false => rfl

/-- A careful errand has an outcome from any content. -/
theorem exists_outcome {e : Errand α} (h : e.Careful) (content : Option α) :
    ∃ left, e.outcome content = some left := by
  induction e generalizing content with
  | done => exact ⟨content, rfl⟩
  | look next ih => exact ih content (h content) content
  | replace context next ih => exact ih content (h content) context
  | write context inner next _ ih =>
    rw [outcome, if_pos (h.1 content)]
    exact ih h.2 context

end Errand

namespace Slot

variable {α : Type} (errand : α → Errand α)

/-- The former context finds the new one in the slot. -/
theorem replaceAndRelease_free (content context : Option α) :
    (replaceAndRelease (fun a => (errand a).perform) context).run ⟨content, false⟩ =
      ((Errand.former errand content).outcome context).elim (.error .lent)
        fun left => .ok ((), ⟨left, false⟩) := by
  cases content with
  | none => rfl
  | some a => exact (errand a).perform_free context

/-- What holds of a cell whose contexts are released with their errands, when `context` is stored. -/
structure ReleaseLaws (c : Cell α) (context : Option α) : Prop where
  /-- To write completes iff the former context, if there is one, leaves the slot alone. -/
  completes : (∃ s, (write (fun a => (errand a).perform) context).run ⟨c.context, false⟩ = .ok s) ↔
    (Errand.former errand c.context).idle = true
  /-- Otherwise its errand fails, since the slot is lent. -/
  fails : (write (fun a => (errand a).perform) context).run ⟨c.context, false⟩ = .error .lent ↔
    (Errand.former errand c.context).idle = false
  /-- Where it completes the slot holds the new context, and to replace the former context and release
      it does the same. -/
  agrees : ∀ s, (write (fun a => (errand a).perform) context).run ⟨c.context, false⟩ = .ok s →
    s = ((), ⟨context, false⟩) ∧
      (replaceAndRelease (fun a => (errand a).perform) context).run ⟨c.context, false⟩ = .ok s
  /-- The latter completes whenever the errand writes over idle contexts only, whatever else it does,
      and leaves what the errand leaves. -/
  released : (Errand.former errand c.context).Careful → ∃ left,
    (Errand.former errand c.context).outcome context = some left ∧
      (replaceAndRelease (fun a => (errand a).perform) context).run ⟨c.context, false⟩ =
        .ok ((), ⟨left, false⟩)
  /-- The cell that was written to holds the new context, also where the release failed, and its other
      slot is as before. -/
  stored : (c.store (fun a => (errand a).perform) context).2 = c.write context

/-- The laws hold of every cell, whatever contexts it holds and whatever their errands are: both ways
    to store a context are read off the former one's errand, on the lent slot for one and on the free
    slot for the other. -/
theorem releaseLaws (c : Cell α) (context : Option α) : ReleaseLaws errand c context where
  completes := by
    rw [write_free]
    cases (Errand.former errand c.context).idle with
    | true => exact ⟨fun _ => rfl, fun _ => ⟨_, rfl⟩⟩
    | false => simp
  fails := by
    rw [write_free]
    cases (Errand.former errand c.context).idle <;> simp
  agrees s h := by
    rw [write_free] at h
    cases hidle : (Errand.former errand c.context).idle with
    | true =>
      rw [hidle, if_pos rfl] at h
      have hs : ((), ⟨context, false⟩) = s := Except.ok.inj h
      rw [replaceAndRelease_free, Errand.eq_done_of_idle hidle]
      exact ⟨hs.symm, congrArg Except.ok hs⟩
    | false =>
      rw [hidle] at h
      cases h
  released hcareful := by
    -- The former context is released with the new one in the slot, so that is where its errand
    -- starts.
    obtain ⟨left, hleft⟩ := Errand.exists_outcome hcareful context
    refine ⟨left, hleft, ?_⟩
    rw [replaceAndRelease_free, hleft]
    rfl
  stored := by
    rw [Cell.store, write_free]
    cases (Errand.former errand c.context).idle <;> rfl

/-- A context that asks on its release whether the slot is in use cannot be cleared by writing. It can be
    cleared by replacing it. -/
theorem clear_of_test :
    let release := fun () => (Errand.test (α := Unit) fun _ => .done).perform
    (write release none).run ⟨some (), false⟩ = .error .lent ∧
      (replaceAndRelease release none).run ⟨some (), false⟩ = .ok ((), ⟨none, false⟩) :=
  ⟨rfl, rfl⟩

end Slot

end Interop
