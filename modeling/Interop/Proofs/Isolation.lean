import Interop.Proofs.Threads

namespace Interop.Threads

/-!
# Threads do not hear of each other

Handles stay on the threads that got them, so whatever a thread observes at its cell follows from its
own steps, and in each of the two slots from the steps on that slot.

* `Kept`, `Kept.step` — whatever the interleaving, the cell of a thread holds what this thread put
  there last, its handles are to this cell, and its answers follow from its own earlier steps.
* `Separate`, `Separate.filter_trace` — steps whose answers follow from each other go on as if there were
  no other steps.
* `Sectioned`, `Answered.lastStored_sectioned` — what a section replaced and puts back in the end is
  there again.
* `ContextLaws`, `contextLaws_run` — the laws of context cells, for every interleaving.

A thread can only reach its own cell: it has no handle but those that it asked for, and what it asks
for is its own. So the invariant `Kept` describes every cell by the history of its thread alone, and
an answer is a function of this history. Isolation is then a consequence. If the answers to some steps
follow from earlier ones among the same steps, then all other steps can be left out of the schedule,
and the answers stay; `Separate.filter_trace` says this once, and it is used for the steps of one
thread, for the steps on contexts, and for the steps on domains.
-/

variable {Ty : Type} {V : Ty → Type}

/-! ### The history of a thread -/

/-- An entry makes the history of its own thread longer, and no other. -/
theorem own_concat (t : Nat) (es : List (Entry V)) (e : Entry V) :
    own t (es ++ [e]) = if e.thread = t then own t es ++ [e] else own t es := by
  by_cases h : e.thread = t
  · simp [own, h]
  · simp [own, h]

section Latest

variable {α : Type} {put : Entry V → Option (Option α)}

/-- A slot holds what the last entry puts into it, or else what it held before. -/
theorem latest_concat (es : List (Entry V)) (e : Entry V) :
    latest put (es ++ [e]) = (put e).getD (latest put es) := by
  simp [latest]

/-- Entries that put nothing into a slot do not count for what it holds. -/
theorem latest_filter {p : Entry V → Bool} (hp : ∀ e, p e = false → put e = none)
    (es : List (Entry V)) : latest put (es.filter p) = latest put es := by
  unfold latest
  -- The induction is on the entries, for any first content of the slot.
  generalize (none : Option α) = held
  induction es generalizing held with
  | nil => rfl
  | cons e es ih =>
    by_cases he : p e = true
    · rw [List.filter_cons_of_pos he, List.foldl_cons, List.foldl_cons, ih]
    · rw [List.filter_cons_of_neg he, List.foldl_cons, hp e (eq_false_of_ne_true he), ih]
      rfl

/-- Entries that put nothing into a slot leave what it holds. -/
theorem latest_append {es rest : List (Entry V)} (h : ∀ e ∈ rest, put e = none) :
    latest put (es ++ rest) = latest put es := by
  induction rest generalizing es with
  | nil => rw [List.append_nil]
  | cons e rest ih =>
    rw [List.append_cons, ih fun e he => h e (List.mem_cons_of_mem _ he), latest_concat,
      h e List.mem_cons_self]
    rfl

end Latest

/-- The slot for contexts holds what was stored last. -/
theorem lastStored_concat (es : List (Entry V)) (e : Entry V) :
    lastStored (es ++ [e]) = e.stored?.getD (lastStored es) :=
  latest_concat es e

/-- The slot for domains holds the domain that was set last. -/
theorem lastDomain_concat (es : List (Entry V)) (e : Entry V) :
    lastDomain (es ++ [e]) = e.domain?.getD (lastDomain es) :=
  latest_concat es e

/-- The entries of the selected steps. -/
def selected (sel : Nat → Step V → Bool) (es : List (Entry V)) : List (Entry V) :=
  es.filter fun e => sel e.thread e.step

/-- It makes no difference whether a thread or a selection is looked at first. -/
theorem own_selected (sel : Step V → Bool) (t : Nat) (es : List (Entry V)) :
    own t (selected (fun _ s => sel s) es) = (own t es).filter fun e => sel e.step := by
  simp [own, selected, Bool.and_comm]

variable [DecidableEq Ty]

/-- Every answer follows from the steps before it. -/
def Answered (es : List (Entry V)) : Prop :=
  ∀ before e, before ++ [e] <+: es → e.result = answer before e.step

/-- One more answer that follows from the steps before it. -/
theorem Answered.concat {es : List (Entry V)} (h : Answered es) {e : Entry V}
    (he : e.result = answer es e.step) : Answered (es ++ [e]) := by
  intro before e' hprefix
  rcases List.prefix_concat_iff.mp hprefix with heq | hprefix
  · obtain ⟨hbefore, hlast⟩ := List.append_inj' heq rfl
    obtain rfl := List.singleton_inj.mp hlast
    rw [hbefore]
    exact he
  · exact h before e' hprefix

/-- The threads are as their own steps have made them. -/
structure Kept (w : Threads V) (es : List (Entry V)) : Prop where
  cell : ∀ t, w.cells.get t = ⟨lastStored (own t es), lastDomain (own t es)⟩
  handles : ∀ t, w.handlesOf t = List.replicate ((own t es).countP (·.gotCell)) t
  answered : ∀ t, Answered (own t es)

namespace Kept

variable {w w' : Threads V} {es : List (Entry V)} {t : Nat}

/-- At the start there is nothing: no cell is in use, and no step was taken. -/
theorem start : Kept ({} : Threads V) [] :=
  ⟨fun _ => rfl, fun _ => rfl, fun _ before e h => by simp [own] at h⟩

/-- A step is judged by what it does to the cell and the handles of its own thread. -/
theorem concat (h : Kept w es) (e : Entry V)
    (hothers : ∀ u, u ≠ e.thread →
      w'.cells.get u = w.cells.get u ∧ w'.handlesOf u = w.handlesOf u)
    (hcell : w'.cells.get e.thread =
      ⟨e.stored?.getD (w.cells.get e.thread).context, e.domain?.getD (w.cells.get e.thread).domain⟩)
    (hhandles : w'.handlesOf e.thread =
      w.handlesOf e.thread ++ if e.gotCell then [e.thread] else [])
    (hresult : e.result = answer (own e.thread es) e.step) : Kept w' (es ++ [e]) := by
  refine ⟨fun u => ?_, fun u => ?_, fun u => ?_⟩
  -- Only the history of the entry's own thread has become longer.
  all_goals
    rw [own_concat]
    by_cases hu : e.thread = u
  · subst hu
    rw [if_pos rfl, hcell, h.cell, lastStored_concat, lastDomain_concat]
  · rw [if_neg hu, (hothers u (Ne.symm hu)).1, h.cell]
  · subst hu
    rw [if_pos rfl, hhandles, h.handles, List.countP_append, List.countP_singleton,
      ← List.replicate_append_replicate]
    cases e.gotCell with
    | false => rfl
    | true => rfl
  · rw [if_neg hu, (hothers u (Ne.symm hu)).2, h.handles]
  · subst hu
    rw [if_pos rfl]
    exact (h.answered e.thread).concat hresult
  · rw [if_neg hu]
    exact h.answered u

/-- A step that changes nothing. -/
theorem still (h : Kept w es) (e : Entry V) (hstored : e.stored? = none) (hdomain : e.domain? = none)
    (hgot : e.gotCell = false) (hresult : e.result = answer (own e.thread es) e.step) :
    Kept w (es ++ [e]) := by
  refine h.concat e (fun _ _ => ⟨rfl, rfl⟩) ?_ ?_ hresult
  · rw [hstored, hdomain]
    rfl
  · rw [hgot]
    exact (List.append_nil _).symm

/-- A step that changes the cell of its thread. -/
theorem set (h : Kept w es) (e : Entry V) {cell : Cell (Sigma V)}
    (hcell : cell =
      ⟨e.stored?.getD (w.cells.get e.thread).context, e.domain?.getD (w.cells.get e.thread).domain⟩)
    (hgot : e.gotCell = false) (hresult : e.result = answer (own e.thread es) e.step) :
    Kept { w with cells := w.cells.set e.thread cell } (es ++ [e]) := by
  refine h.concat e (fun u hu => ⟨Cells.get_set_of_ne _ hu _, rfl⟩) ?_ ?_ hresult
  · rw [hcell]
    exact Cells.get_set_self ..
  · rw [hgot]
    exact (List.append_nil _).symm

/-- A thread looks at its own cell. -/
theorem look_eq (h : Kept w es) (handle : Nat) (see : Cell (Sigma V) → Result V) :
    w.look t handle see =
      if handle < (own t es).countP (·.gotCell) then (see (w.cells.get t), w) else (.noHandle, w) := by
  rw [look, h.handles, List.getElem?_replicate]
  by_cases hlt : handle < (own t es).countP (·.gotCell)
  · rw [if_pos hlt, if_pos hlt]
  · rw [if_neg hlt, if_neg hlt]

/-- A thread changes its own cell. -/
theorem change_eq (h : Kept w es) (handle : Nat)
    (f : Cell (Sigma V) → Result V × Cell (Sigma V)) :
    w.change t handle f =
      if handle < (own t es).countP (·.gotCell) then
        ((f (w.cells.get t)).1, { w with cells := w.cells.set t (f (w.cells.get t)).2 })
      else (.noHandle, w) := by
  rw [change, h.handles, List.getElem?_replicate]
  by_cases hlt : handle < (own t es).countP (·.gotCell)
  · rw [if_pos hlt, if_pos hlt]
  · rw [if_neg hlt, if_neg hlt]

variable {release : Sigma V → Slot.Use (Sigma V) Unit}

/-- The next step of a thread gets the answer that the thread can expect, and changes nothing but its
    own cell and handles. -/
theorem step (h : Kept w es) (hidle : ∀ a, release a = pure ()) (t : Nat) (s : Step V) :
    Kept (w.step release t s).2 (es ++ [⟨t, s, (w.step release t s).1⟩]) := by
  -- One case a step: what it says of the cell is read off the invariant, and so is its answer.
  have hcell := h.cell t
  cases s with
  | getCell =>
    refine h.concat _ (fun u hu => ⟨rfl, ?_⟩) rfl ?_ ?_
    · simp [Threads.step, handlesOf, Ne.symm hu]
    · simp [Threads.step, handlesOf, Entry.gotCell]
    · simp [Threads.step, answer, h.handles]
  | sameCell first second =>
    simp only [Threads.step, h.handles, List.getElem?_replicate]
    by_cases hfirst : first < (own t es).countP (·.gotCell)
    · by_cases hsecond : second < (own t es).countP (·.gotCell)
      · simp only [if_pos hfirst, if_pos hsecond]
        exact h.still _ rfl rfl rfl (by simp [answer, hfirst, hsecond])
      · simp only [if_pos hfirst, if_neg hsecond]
        exact h.still _ rfl rfl rfl (by simp [answer, hsecond])
    · simp only [if_neg hfirst]
      exact h.still _ rfl rfl rfl (by simp [answer, hfirst])
  | isSet handle =>
    rw [Threads.step, h.look_eq]
    by_cases hlt : handle < (own t es).countP (·.gotCell)
    · rw [if_pos hlt]
      exact h.still _ rfl rfl rfl (by simp [answer, hlt, hcell, Cell.isSet])
    · rw [if_neg hlt]
      exact h.still _ rfl rfl rfl (by simp [answer, hlt])
  | read handle C =>
    rw [Threads.step, h.look_eq]
    by_cases hlt : handle < (own t es).countP (·.gotCell)
    · rw [if_pos hlt]
      exact h.still _ rfl rfl rfl (by simp [answer, hlt, hcell, Cell.readAs])
    · rw [if_neg hlt]
      exact h.still _ rfl rfl rfl (by simp [answer, hlt])
  | write handle context =>
    simp only [Threads.step, h.change_eq, Cell.store_of_idle hidle]
    by_cases hlt : handle < (own t es).countP (·.gotCell)
    · rw [if_pos hlt]
      exact h.set ⟨t, .write handle context, _⟩ rfl rfl (by simp [answer, hlt])
    · rw [if_neg hlt]
      exact h.still _ rfl rfl rfl (by simp [answer, hlt])
  | replace handle context =>
    rw [Threads.step, h.change_eq]
    by_cases hlt : handle < (own t es).countP (·.gotCell)
    · rw [if_pos hlt]
      exact h.set ⟨t, .replace handle context, _⟩ rfl rfl
        (by simp [answer, hlt, hcell, Cell.replace])
    · rw [if_neg hlt]
      exact h.still _ rfl rfl rfl (by simp [answer, hlt])
  | domain => exact h.still _ rfl rfl rfl (by simp [answer, Threads.step, hcell])
  | replaceDomain domain =>
    exact h.set ⟨t, .replaceDomain domain, _⟩ rfl rfl
      (by simp [answer, Threads.step, hcell, Cell.replaceDomain])

/-- The invariant holds after every schedule. -/
theorem run (h : Kept w es) (hidle : ∀ a, release a = pure ()) (schedule : List (Nat × Step V)) :
    Kept (w.run release schedule) (es ++ w.trace release schedule) := by
  induction schedule generalizing w es with
  | nil => simpa [Threads.run, trace] using h
  | cons s schedule ih =>
    have hnext := ih (h.step hidle s.1 s.2)
    rw [List.append_assoc] at hnext
    exact hnext

/-- The answer to a step is the one that its thread can expect. -/
theorem answer_eq (h : Kept w es) (hidle : ∀ a, release a = pure ()) (t : Nat) (s : Step V) :
    (w.step release t s).1 = answer (own t es) s := by
  have hnext := (h.step hidle t s).answered t
  rw [own_concat, if_pos rfl] at hnext
  exact hnext (own t es) _ (List.prefix_refl _)

end Kept

/-! ### Steps that go on alone -/

/-- The answers to the selected steps follow from the selected steps before them. -/
def Separate (sel : Nat → Step V → Bool) : Prop :=
  ∀ es t s, sel t s = true → answer (own t es) s = answer (own t (selected sel es)) s

/-- What is observed in separate steps is what is observed without the others. -/
theorem Separate.filter_trace {sel : Nat → Step V → Bool} (hsel : Separate sel)
    {release : Sigma V → Slot.Use (Sigma V) Unit} (hidle : ∀ a, release a = pure ())
    {w w' : Threads V} {es es' : List (Entry V)} (h : Kept w es) (h' : Kept w' es')
    (heq : selected sel es = selected sel es') (schedule : List (Nat × Step V)) :
    selected sel (w.trace release schedule) =
      w'.trace release (schedule.filter fun s => sel s.1 s.2) := by
  induction schedule generalizing w w' es es' with
  | nil => rfl
  | cons s schedule ih =>
    obtain ⟨t, s⟩ := s
    -- A selected step is taken on both sides, with one answer; any other one on the left side only.
    by_cases hs : sel t s = true
    · have hresult : (w.step release t s).1 = (w'.step release t s).1 := by
        rw [h.answer_eq hidle, h'.answer_eq hidle, hsel es t s hs, hsel es' t s hs, heq]
      have hnext := ih (h.step hidle t s) (h'.step hidle t s) (by
        rw [hresult]
        simpa [selected, hs] using heq)
      simp only [selected] at hnext
      simp only [selected, trace, List.filter_cons, hs, if_true, hnext, hresult]
    · have hnext := ih (h.step hidle t s) h' (by simpa [selected, hs] using heq)
      simp only [selected] at hnext
      simp only [selected, trace, List.filter_cons, hs, hnext, Bool.false_eq_true, if_false]

/-- The steps of one thread are separate. -/
theorem separate_thread (t : Nat) : Separate (V := V) fun u _ => u == t := by
  intro es u s hu
  obtain rfl := beq_iff_eq.mp hu
  have hown : own u (selected (fun t _ => t == u) es) = own u es := by
    simp [own, selected]
  rw [hown]

/-- Steps on contexts are separate from steps on domains. -/
theorem separate_context : Separate (V := V) fun _ s => s.onContext := by
  intro es t s hs
  have hstored : ∀ e : Entry V, e.step.onContext = false → e.stored? = none := by
    rintro ⟨u, s, r⟩ he
    cases s with
    | domain | replaceDomain => rfl
    | _ => cases he
  have hgot : ∀ e : Entry V, (e.gotCell && e.step.onContext) = e.gotCell := by
    rintro ⟨u, s, r⟩
    cases s with
    | getCell => rfl
    | _ => rfl
  -- Handles are asked for in steps on contexts, so none is missing from the selection.
  have hcount : ((own t es).filter fun e => e.step.onContext).countP (·.gotCell) =
      (own t es).countP (·.gotCell) := by
    simp only [List.countP_filter, hgot]
  rw [own_selected]
  cases s with
  | domain | replaceDomain => cases hs
  | _ => simp only [answer, hcount, lastStored, latest_filter hstored]

/-- Steps on domains are separate from steps on contexts. -/
theorem separate_domain : Separate (V := V) fun _ s => !s.onContext := by
  intro es t s hs
  have hdomain : ∀ e : Entry V, (!e.step.onContext) = false → e.domain? = none := by
    rintro ⟨u, s, r⟩ he
    cases s with
    | domain | replaceDomain => cases he
    | _ => rfl
  rw [own_selected]
  cases s with
  | domain | replaceDomain => simp only [answer, lastDomain, latest_filter hdomain]
  | _ => cases hs

/-! ### Sections -/

/-- Steps of a thread in sections. A section replaces the context and in the end puts back what it has
    replaced, whatever happens in between; outside of sections nothing is stored. -/
inductive Sectioned : List (Entry V) → Prop
  | nil : Sectioned []
  | idle {e : Entry V} {rest : List (Entry V)} (he : e.stored? = none) (hrest : Sectioned rest) :
    Sectioned (e :: rest)
  | replaced {enter leave t : Nat} {context saved inner : Option (Sigma V)}
    {body rest : List (Entry V)} (hrest : Sectioned rest) :
    Sectioned (⟨t, .replace enter context, .former saved⟩ :: body ++
      ⟨t, .replace leave saved, .former inner⟩ :: rest)

/-- After sections the context is there that was there before. -/
theorem Answered.lastStored_sectioned {before inside : List (Entry V)}
    (h : Answered (before ++ inside)) (hs : Sectioned inside) :
    lastStored (before ++ inside) = lastStored before := by
  induction hs generalizing before with
  | nil => rw [List.append_nil]
  | @idle e rest he _ ih =>
    rw [List.append_cons] at h ⊢
    rw [ih h, lastStored_concat, he]
    rfl
  | @replaced enter leave t context saved inner body rest _ ih =>
    have hfirst : before ++ [⟨t, .replace enter context, .former saved⟩] <+: before ++
        (⟨t, .replace enter context, .former saved⟩ :: body ++
          ⟨t, .replace leave saved, .former inner⟩ :: rest) := by
      rw [List.cons_append, List.append_cons before _ (body ++ _)]
      exact List.prefix_append _ _
    -- What the section saved is what was there at its entry, since its answer follows from the steps
    -- before.
    have hsaved : saved = lastStored before := by
      have hanswer := h before _ hfirst
      simp only [answer] at hanswer
      split at hanswer
      · exact Result.former.inj hanswer
      · cases hanswer
    rw [← List.append_assoc, List.append_cons] at h ⊢
    rw [ih h, lastStored_concat, hsaved]
    rfl

/-! ### The laws of context cells -/

/-- What holds of the cells of threads after an interleaving of steps. -/
structure ContextLaws (release : Sigma V → Slot.Use (Sigma V) Unit)
    (schedule : List (Nat × Step V)) : Prop where
  /-- What a thread observes is what it observes when it runs its own steps alone. -/
  isolated : ∀ t, own t (observe release schedule) =
    observe release (schedule.filter fun s => s.1 == t)
  /-- Every answer follows from the earlier steps of the same thread. -/
  answered : ∀ t, Answered (own t (observe release schedule))
  /-- The slots of a thread hold what this thread put into each of them last. -/
  cell : ∀ t, (reach release schedule).cells.get t =
    ⟨lastStored (own t (observe release schedule)), lastDomain (own t (observe release schedule))⟩
  /-- Every handle is to the cell of the thread that holds it. -/
  handles : ∀ t, ∀ owner ∈ (reach release schedule).handlesOf t, owner = t
  /-- To read a context as one of a type finds it iff it was stored last and is of that type, and
      changes nothing. -/
  read : ∀ t C, ∀ handle < ((reach release schedule).handlesOf t).length, ∃ found,
    (reach release schedule).step release t (.read handle C) =
        (.read C found, reach release schedule) ∧
      ∀ v, found = some v ↔ lastStored (own t (observe release schedule)) = some ⟨C, v⟩
  /-- Whether a context is stored does not depend on its type. -/
  isSet : ∀ t, ∀ handle < ((reach release schedule).handlesOf t).length,
    (reach release schedule).step release t (.isSet handle) =
      (.isSet (lastStored (own t (observe release schedule))).isSome, reach release schedule)
  /-- To replace a context gives back the one stored before. -/
  replace : ∀ t context, ∀ handle < ((reach release schedule).handlesOf t).length,
    ((reach release schedule).step release t (.replace handle context)).1 =
      .former (lastStored (own t (observe release schedule)))
  /-- To set a domain gives back the one set before. -/
  replaceDomain : ∀ t domain, ((reach release schedule).step release t (.replaceDomain domain)).1 =
    .formerDomain (lastDomain (own t (observe release schedule)))
  /-- What is observed in steps on contexts is the same without the steps on domains. -/
  contexts : selected (fun _ s => s.onContext) (observe release schedule) =
    observe release (schedule.filter fun s => s.2.onContext)
  /-- What is observed in steps on domains is the same without the steps on contexts. -/
  domains : selected (fun _ s => !s.onContext) (observe release schedule) =
    observe release (schedule.filter fun s => !s.2.onContext)
  /-- After sections of a thread its cell is as it was at their entry, whatever the other threads do
      meanwhile. -/
  restored : ∀ t before inside, schedule = before ++ inside →
    Sectioned (own t ((reach release before).trace release inside)) →
    ((reach release schedule).cells.get t).context = ((reach release before).cells.get t).context ∧
      ((∀ e ∈ own t ((reach release before).trace release inside), e.domain? = none) →
        (reach release schedule).cells.get t = (reach release before).cells.get t)

/-- The laws of context cells hold for every interleaving, as long as the release of a context leaves
    the cells alone. -/
theorem contextLaws_run (release : Sigma V → Slot.Use (Sigma V) Unit)
    (hidle : ∀ a, release a = pure ()) (schedule : List (Nat × Step V)) :
    ContextLaws release schedule := by
  have hkept : ∀ schedule, Kept (reach release schedule) (observe release schedule) := fun schedule =>
    Kept.start.run hidle schedule
  have h := hkept schedule
  have halone : ∀ {sel}, Separate sel → selected sel (observe release schedule) =
      observe release (schedule.filter fun s => sel s.1 s.2) := fun hsel =>
    hsel.filter_trace hidle Kept.start Kept.start rfl schedule
  have hlength : ∀ t, ((reach release schedule).handlesOf t).length =
      (own t (observe release schedule)).countP (·.gotCell) := by
    intro t
    rw [h.handles, List.length_replicate]
  refine ⟨fun t => halone (separate_thread t), h.answered, h.cell, ?_, ?_, ?_, ?_, ?_,
    halone separate_context, halone separate_domain, ?_⟩
  · intro t owner howner
    rw [h.handles] at howner
    exact List.eq_of_mem_replicate howner
  · intro t C handle hlt
    rw [hlength] at hlt
    refine ⟨(lastStored (own t (observe release schedule))).bind (downcast C), ?_, fun v => ?_⟩
    · rw [step, h.look_eq, if_pos hlt, h.cell]
      rfl
    · simp [Option.bind_eq_some_iff, downcast_eq_some_iff]
  · intro t handle hlt
    rw [hlength] at hlt
    rw [step, h.look_eq, if_pos hlt, h.cell]
    rfl
  · intro t context handle hlt
    rw [hlength] at hlt
    rw [h.answer_eq hidle, answer, if_pos hlt]
  · intro t domain
    rw [h.answer_eq hidle, answer]
  · rintro t before inside rfl hs
    have hsplit : own t (observe release (before ++ inside)) =
        own t (observe release before) ++ own t ((reach release before).trace release inside) := by
      rw [observe, trace_append]
      exact List.filter_append ..
    have hcontext := (hsplit ▸ h.answered t).lastStored_sectioned hs
    have hnow := h.cell t
    have hthen := (hkept before).cell t
    rw [hsplit] at hnow
    refine ⟨by rw [hnow, hthen, hcontext], fun hinside => ?_⟩
    rw [hnow, hthen, hcontext, lastDomain, latest_append hinside]
    rfl

/-- Two threads whose contexts need no release: one stores a context and reads it as two types, the
    other finds nothing. -/
theorem contextLaws_run_plain :
    let schedule : List (Nat × Step fun _ : Bool => Nat) := [(0, .getCell), (1, .getCell),
      (0, .write 0 (some ⟨true, 7⟩)), (1, .read 0 true), (0, .read 0 false), (0, .read 0 true)]
    ContextLaws (fun _ => pure ()) schedule ∧
      (observe (fun _ => pure ()) schedule).map (·.result) = [.gotCell 0, .gotCell 0,
        .wrote (.ok ()), .read true none, .read false none, .read true (some 7)] :=
  ⟨contextLaws_run _ (fun _ => rfl) _, rfl⟩

end Interop.Threads
