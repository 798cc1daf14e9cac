import Interop.Access.Elevation

namespace Interop

/-!
# Contacts with foreign members

A member is foreign code: each of its operations may change whatever state it hides, and answers or
panics. An elevation catches the panics of the attempt itself. It asks for the access mode before the
attempt, and for the name of a member that panicked after it.

* `Contact`, `Observed` — a call of a member's operation with how it ended, and hidden state with the
  contacts so far.
* `Reflected.recorded`, `Reflected.elevation` — a member whose contacts are written down, and its
  elevation; `Reflected.erases_elevate` says that the record changes nothing.
* `Panicking.Shows` — which contacts a program can have and what it comes to, with one rule for each way
  to put programs together.
* `Attempted`, `Course` — the contacts of an attempt and of an elevation; `Reflected.course_elevation`
  shows that there is nothing else.

An elevation is one program over an abstract monad, so the same text runs with and without a record:
to have its contacts, it is given a member whose operations write themselves down. Two relations
between programs carry the module. `Erases` compares the program with the record to the one without
it, and `Shows` compares what the record gains to the answer. Each has a rule for a value, for an
operation, for a sequence and for a caught panic, and these are all the means an elevation is built
with; the contacts of an elevation are then found by following its text.

The name of a member and the changes of its mode are contacts, and what the log does is not: it is no
foreign code, and it never panics.
-/

/-- A call of a member's operation, with how it ended. -/
inductive Contact
  /-- Whether there is an access mode. -/
  | accessMode (answer : Except Panic Bool)
  | name (answer : Except Panic String)
  | isAccessible (answer : Except Panic Bool)
  | setAccessible (flag : Bool) (answer : Except Panic (Except AccessDenied Unit))

namespace Contact

/-- Whether the call ended in a panic. -/
def panicked : Contact → Bool
  | accessMode (.error _) | name (.error _) | isAccessible (.error _) | setAccessible _ (.error _) => true
  | _ => false

/-- Whether the call was to change the access mode. -/
def sets : Contact → Bool
  | setAccessible .. => true
  | _ => false

end Contact

/-- Hidden state, with the contacts so far. -/
structure Observed (σ : Type) where
  hidden : σ
  contacts : List Contact := []

namespace Panicking

variable {σ α β : Type}

/-- The program with a record of how it ended. -/
def recorded (p : Panicking σ α) (contact : Except Panic α → Contact) : Panicking (Observed σ) α :=
  ExceptT.mk fun w =>
    let (answer, hidden) := p.run.run w.hidden
    (answer, ⟨hidden, w.contacts ++ [contact answer]⟩)

/-- The program without a record. -/
def unrecorded (p : Panicking σ α) : Panicking (Observed σ) α :=
  ExceptT.mk fun w =>
    let (answer, hidden) := p.run.run w.hidden
    (answer, ⟨hidden, w.contacts⟩)

end Panicking

/-- A log of elevations as panicking programs see it; to write to it does not panic. -/
def logging {σ : Type} (log : Option (ElevationNote → StateM σ Unit)) :
    Option (ElevationNote → Panicking σ Unit) :=
  log.map fun write note => ExceptT.lift (write note)

/-- The log next to a record of contacts. -/
def loggingUnrecorded {σ : Type} (log : Option (ElevationNote → StateM σ Unit)) :
    Option (ElevationNote → Panicking (Observed σ) Unit) :=
  (logging log).map fun write note => (write note).unrecorded

/-- The access mode with a record of its contacts. -/
def AccessMode.recorded {σ : Type} (a : AccessMode (Panicking σ)) :
    AccessMode (Panicking (Observed σ)) where
  isAccessible := Panicking.recorded a.isAccessible .isAccessible
  setAccessible flag := Panicking.recorded (a.setAccessible flag) (.setAccessible flag)

namespace Reflected

variable {σ : Type} (r : Reflected (Panicking σ)) (log : Option (ElevationNote → StateM σ Unit))

/-- The member with a record of its contacts. -/
def recorded : Reflected (Panicking (Observed σ)) where
  name := Panicking.recorded r.name .name
  isVariadic := Panicking.unrecorded r.isVariadic
  accessMode := do
    let mode ← Panicking.recorded r.accessMode fun answer => .accessMode (answer.map (·.isSome))
    return mode.map (·.recorded)

/-- An elevation of the member, with the contacts that it has. -/
def elevation (s : σ) : Except Panic Bool × Observed σ :=
  (elevate (loggingUnrecorded log) r.recorded).run.run ⟨s, []⟩

end Reflected

/-! ### The record changes nothing

A program over observed states has the hidden state of the member in it. The program erases to one
over the hidden states if both come to the same answer and the same hidden state from everywhere.
-/

namespace Panicking

variable {σ α β : Type} {q : Panicking (Observed σ) α} {p : Panicking σ α}

/-- But for the record, `q` does what `p` does. -/
def Erases (q : Panicking (Observed σ) α) (p : Panicking σ α) : Prop :=
  ∀ w, p.run.run w.hidden = ((q.run.run w).1, (q.run.run w).2.hidden)

/-- A value leaves no record. -/
theorem erases_pure (a : α) : (pure a : Panicking (Observed σ) α).Erases (pure a) :=
  fun _ => rfl

/-- To write an operation down does not change what it does. -/
theorem erases_recorded (p : Panicking σ α) (contact : Except Panic α → Contact) :
    (p.recorded contact).Erases p :=
  fun _ => rfl

/-- Neither does to leave it unwritten. -/
theorem erases_unrecorded (p : Panicking σ α) : p.unrecorded.Erases p :=
  fun _ => rfl

/-- **Sequences.** Both programs go on with the same answer, so they may be compared step by step. -/
theorem Erases.bind (h : q.Erases p) {g : α → Panicking (Observed σ) β} {f : α → Panicking σ β}
    (hf : ∀ a, (g a).Erases (f a)) : (q >>= g).Erases (p >>= f) := by
  intro w
  rw [run_bind, run_bind, h w]
  -- What the first part answers is the same on both sides, and if it is a panic nothing follows.
  rcases q.run.run w with ⟨e | a, w'⟩
  · rfl
  · exact hf a w'

/-- **Caught panics.** Both programs catch the same panic, in states that differ by the record alone.
    -/
theorem Erases.tryCatch (h : q.Erases p) {g : Panic → Panicking (Observed σ) α}
    {f : Panic → Panicking σ α} (hf : ∀ e, (g e).Erases (f e)) :
    (tryCatchThe Panic q g).Erases (tryCatchThe Panic p f) := by
  intro w
  rw [run_tryCatch, run_tryCatch, h w]
  rcases q.run.run w with ⟨e | a, w'⟩
  · exact hf e w'
  · rfl

end Panicking

namespace Reflected

open Panicking

variable {σ : Type} (r : Reflected (Panicking σ)) (log : Option (ElevationNote → StateM σ Unit))

/-- A report asks for the name of the member and writes a note, with a record or without. -/
theorem erases_report (note : String → ElevationNote) :
    (report (loggingUnrecorded log) r.recorded note).Erases (report (logging log) r note) := by
  cases log with
  | none => exact erases_pure ()
  | some write => exact (erases_recorded _ _).bind fun n => erases_unrecorded _

/-- An attempt looks, changes the mode, reports a refusal and looks again, with a record or without. -/
theorem erases_attempt (a : AccessMode (Panicking σ)) :
    (attempt (loggingUnrecorded log) r.recorded a.recorded).Erases (attempt (logging log) r a) := by
  unfold attempt
  refine (erases_recorded _ _).bind fun yes => ?_
  cases yes with
  | true => exact erases_pure true
  | false =>
    refine (erases_recorded _ _).bind fun answer => ?_
    cases answer with
    | error e => exact (r.erases_report log _).bind fun _ => erases_recorded _ _
    | ok u => exact erases_recorded _ _

/-- **The record changes nothing.** An elevation with a record answers what it answers without one,
    and leaves the member's hidden state the same. -/
theorem erases_elevate :
    (elevate (loggingUnrecorded log) r.recorded).Erases (elevate (logging log) r) := by
  unfold elevate
  simp only [recorded, bind_assoc]
  refine (erases_recorded _ _).bind fun mode => ?_
  -- That there is a mode was written down; which one it is was not, and does not matter.
  rw [pure_bind]
  cases mode with
  | none => exact erases_pure false
  | some a =>
    refine (r.erases_attempt log a).tryCatch fun _ => ?_
    exact (r.erases_report log _).bind fun _ => erases_pure false

end Reflected

/-! ### Contacts of a program

What a program adds to the record is described by a relation between the added contacts and the
answer. Nothing is said of the hidden states: they are up to the member.
-/

namespace Panicking

variable {σ α β : Type} {q : Panicking (Observed σ) α}

/-- From any state, `q` adds contacts to the record that stand in relation `P` to its answer. -/
def Shows (q : Panicking (Observed σ) α) (P : List Contact → Except Panic α → Prop) : Prop :=
  ∀ w, ∃ cs, (q.run.run w).2.contacts = w.contacts ++ cs ∧ P cs (q.run.run w).1

variable {P R : List Contact → Except Panic α → Prop}

/-- A value has no contacts. -/
theorem shows_pure {a : α} (h : P [] (.ok a)) : (pure a : Panicking (Observed σ) α).Shows P :=
  fun w => ⟨[], (List.append_nil w.contacts).symm, h⟩

/-- An operation that is written down is one contact, with its answer. -/
theorem shows_recorded {p : Panicking σ α} {contact : Except Panic α → Contact}
    (h : ∀ answer, P [contact answer] answer) : (p.recorded contact).Shows P :=
  fun _ => ⟨[contact _], rfl, h _⟩

/-- To go on with what a program answers adds the contacts of both. -/
theorem Shows.bind (h : q.Shows P) {f : α → Panicking (Observed σ) β}
    {Q : List Contact → Except Panic β → Prop} (herror : ∀ cs e, P cs (.error e) → Q cs (.error e))
    (hok : ∀ cs a, P cs (.ok a) → (f a).Shows fun cs' answer => Q (cs ++ cs') answer) :
    (q >>= f).Shows Q := by
  intro w
  rw [run_bind]
  obtain ⟨cs, hcs, hP⟩ := h w
  generalize q.run.run w = ended at hcs hP ⊢
  obtain ⟨e | a, w'⟩ := ended
  · exact ⟨cs, hcs, herror cs e hP⟩
  · obtain ⟨cs', hcs', hQ⟩ := hok cs a hP w'
    -- The record is only ever added to, so the contacts of the second part stand after those of the
    -- first.
    refine ⟨cs ++ cs', ?_, hQ⟩
    rw [← List.append_assoc, ← hcs]
    exact hcs'

/-- So does to handle a panic. -/
theorem Shows.tryCatch (h : q.Shows P) {f : Panic → Panicking (Observed σ) α}
    (hok : ∀ cs a, P cs (.ok a) → R cs (.ok a))
    (herror : ∀ cs e, P cs (.error e) → (f e).Shows fun cs' answer => R (cs ++ cs') answer) :
    (tryCatchThe Panic q f).Shows R := by
  intro w
  rw [run_tryCatch]
  obtain ⟨cs, hcs, hP⟩ := h w
  generalize q.run.run w = ended at hcs hP ⊢
  obtain ⟨e | a, w'⟩ := ended
  · obtain ⟨cs', hcs', hR⟩ := herror cs e hP w'
    refine ⟨cs ++ cs', ?_, hR⟩
    rw [← List.append_assoc, ← hcs]
    exact hcs'
  · exact ⟨cs, hcs, hok cs a hP⟩

end Panicking

/-! ### Contacts of an elevation -/

/-- The contacts of a report, and what it comes to: the name is asked for only where there is a log. -/
inductive Reported (logs : Bool) : List Contact → Except Panic Unit → Prop
  | silent (hlogs : logs = false) : Reported logs [] (.ok ())
  | written (hlogs : logs = true) (name : String) : Reported logs [.name (.ok name)] (.ok ())
  | unnamed (hlogs : logs = true) (e : Panic) : Reported logs [.name (.error e)] (.error e)

/-- The contacts of an attempt, and what it comes to. -/
inductive Attempted (logs : Bool) : List Contact → Except Panic Bool → Prop
  /-- The first look answers yes or panics. -/
  | seen : Attempted logs [.isAccessible (.ok true)] (.ok true)
  | unseen (e : Panic) : Attempted logs [.isAccessible (.error e)] (.error e)
  | failed (e : Panic) :
      Attempted logs [.isAccessible (.ok false), .setAccessible true (.error e)] (.error e)
  /-- The change is accepted, and the second look decides. -/
  | accepted (answer : Except Panic Bool) :
      Attempted logs
        [.isAccessible (.ok false), .setAccessible true (.ok (.ok ())), .isAccessible answer] answer
  /-- The change is refused, and the second look decides after the report. -/
  | refused (e : AccessDenied) {cs : List Contact} (h : Reported logs cs (.ok ()))
      (answer : Except Panic Bool) :
      Attempted logs
        ([.isAccessible (.ok false), .setAccessible true (.ok (.error e))] ++ cs ++
          [.isAccessible answer]) answer
  /-- The change is refused, and the report panics. -/
  | unreported (e : AccessDenied) {cs : List Contact} {p : Panic} (h : Reported logs cs (.error p)) :
      Attempted logs
        ([.isAccessible (.ok false), .setAccessible true (.ok (.error e))] ++ cs) (.error p)

/-- The contacts of an elevation, and what it comes to. -/
inductive Course (logs : Bool) : List Contact → Except Panic Bool → Prop
  | hidden (e : Panic) : Course logs [.accessMode (.error e)] (.error e)
  | unsupported : Course logs [.accessMode (.ok false)] (.ok false)
  | attempted {cs : List Contact} {yes : Bool} (h : Attempted logs cs (.ok yes)) :
      Course logs (.accessMode (.ok true) :: cs) (.ok yes)
  /-- The attempt panicked, which is caught, and reported where there is a log. -/
  | caught {cs cs' : List Contact} {e : Panic} (h : Attempted logs cs (.error e))
      {answer : Except Panic Unit} (hreport : Reported logs cs' answer) :
      Course logs (.accessMode (.ok true) :: cs ++ cs') (answer.map fun _ => false)

namespace Reflected

open Panicking

variable {σ : Type} (r : Reflected (Panicking σ)) (log : Option (ElevationNote → StateM σ Unit))

/-- The contacts of a report. Only a member that is asked for its name by a log can make it panic. -/
theorem shows_report (note : String → ElevationNote) :
    (report (loggingUnrecorded log) r.recorded note).Shows (Reported log.isSome) := by
  cases log with
  | none => exact shows_pure (.silent rfl)
  | some write =>
    refine (shows_recorded (P := fun cs answer => cs = [.name answer]) fun _ => rfl).bind ?_ ?_
    · rintro _ e rfl
      exact .unnamed rfl e
    · rintro _ name rfl w
      exact ⟨[], (List.append_nil w.contacts).symm, .written rfl name⟩

/-- The contacts of an attempt: the relations are those of its constructors, one for each way through
    it. -/
theorem shows_attempt (a : AccessMode (Panicking σ)) :
    (attempt (loggingUnrecorded log) r.recorded a.recorded).Shows (Attempted log.isSome) := by
  unfold attempt
  refine (shows_recorded (P := fun cs answer => cs = [.isAccessible answer]) fun _ => rfl).bind ?_ ?_
  · rintro _ e rfl
    exact .unseen e
  rintro _ yes rfl
  cases yes with
  -- Yes ends the attempt at the first look; after no, the answer to the change says what is left.
  | true => exact shows_pure .seen
  | false =>
    refine (shows_recorded (P := fun cs answer => cs = [.setAccessible true answer])
      fun _ => rfl).bind ?_ ?_
    · rintro _ e rfl
      exact .failed e
    rintro _ answer rfl
    cases answer with
    | ok u => exact shows_recorded .accepted
    | error e =>
      refine (r.shows_report log _).bind ?_ ?_
      · intro cs p h
        exact .unreported e h
      · intro cs u h
        exact shows_recorded fun answer => by simpa using Attempted.refused e h answer

/-- The contacts of an elevation. What the attempt panics with is caught, and decides nothing but that
    there is a report. -/
theorem shows_elevate : (elevate (loggingUnrecorded log) r.recorded).Shows (Course log.isSome) := by
  unfold elevate
  simp only [recorded, bind_assoc]
  refine (shows_recorded (P := fun cs answer => cs = [.accessMode (answer.map (·.isSome))])
    fun _ => rfl).bind ?_ ?_
  · rintro _ e rfl
    exact .hidden e
  rintro _ mode rfl
  rw [pure_bind]
  cases mode with
  | none => exact shows_pure .unsupported
  | some a =>
    -- A panic of the report after a caught one is not caught any more.
    refine (r.shows_attempt log a).tryCatch ?_ ?_
    · intro cs yes h
      exact .attempted h
    intro cs e h
    refine (r.shows_report log _).bind ?_ ?_
    · intro cs' p hreport
      exact .caught h hreport
    · intro cs' u hreport
      have hcourse := Course.caught h hreport
      rw [List.cons_append, ← List.append_nil cs'] at hcourse
      exact shows_pure hcourse

/-- An elevation has no other contacts, and comes to nothing else. -/
theorem course_elevation (s : σ) :
    Course log.isSome (r.elevation log s).2.contacts (r.elevation log s).1 := by
  obtain ⟨cs, hcs, h⟩ := r.shows_elevate log ⟨s, []⟩
  rw [List.nil_append] at hcs
  rw [elevation, hcs]
  exact h

end Reflected

end Interop
