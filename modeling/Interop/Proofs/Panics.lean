import Interop.Proofs.Contacts

namespace Interop

/-!
# Panics of foreign members

What an elevation comes to can be read off its contacts, and off the last of them for the most part.

* `Attempted.last`, `Course.last` — the last contact of an attempt and of an elevation.
* `Attempted.change`, `Course.change` — where the access mode is changed, and what comes after.
* `Reflected.PanicLaws`, `Reflected.panicLaws` — which panics escape, what a yes means, and when the
  access mode is changed, for every member.
* `Reflected.escapes_of_outside` — two members whose panics escape.

A member answers as it likes, so nothing about an elevation follows from the member. It follows from
the order in which the member is contacted: the courses of an elevation list all orders that there
are, and every law here is read off this list, case by case, without a look at the program. The two
places outside of the guard are visible as the two ways for a course to end in a panic: the only
contact is the question for the access mode, or the last one is a question for the name.
-/

section Course

variable {logs : Bool} {cs : List Contact}

/-- A report never changes the access mode. -/
theorem Reported.sets_eq_false {answer : Except Panic Unit} (h : Reported logs cs answer) :
    ∀ c ∈ cs, c.sets = false := by
  cases h with
  | silent => exact List.forall_mem_nil _
  | written | unnamed => exact List.forall_mem_singleton.mpr rfl

/-- A report that is written had no panic in it. -/
theorem Reported.panicked_eq_false (h : Reported logs cs (.ok ())) :
    ∀ c ∈ cs, c.panicked = false := by
  cases h with
  | silent => exact List.forall_mem_nil _
  | written => exact List.forall_mem_singleton.mpr rfl

/-- An attempt that comes to an answer had no panic in it. -/
theorem Attempted.panicked_eq_false {yes : Bool} (h : Attempted logs cs (.ok yes)) :
    ∀ c ∈ cs, c.panicked = false := by
  cases h with
  | seen => exact List.forall_mem_singleton.mpr rfl
  | accepted => simp [Contact.panicked]
  | refused e hreport =>
    have hlook : ∀ c ∈ [Contact.isAccessible (.ok yes)], c.panicked = false :=
      List.forall_mem_singleton.mpr rfl
    have hchange : ∀ c ∈ [Contact.isAccessible (.ok false), .setAccessible true (.ok (.error e))],
        c.panicked = false := by simp [Contact.panicked]
    exact List.forall_mem_append.mpr
      ⟨List.forall_mem_append.mpr ⟨hchange, hreport.panicked_eq_false⟩, hlook⟩

/-- The last contact of an attempt decides: where it panicked so does the attempt, and a yes is the yes
    of a look. -/
theorem Attempted.last {answer : Except Panic Bool} (h : Attempted logs cs answer) :
    ∃ before c, cs = before ++ [c] ∧ c.panicked = !answer.isOk ∧
      (c = .isAccessible (.ok true) ↔ answer = .ok true) ∧ ∀ name, c = .name name → logs = true := by
  cases h with
  | seen => exact ⟨[], _, rfl, rfl, by simp, by simp⟩
  | unseen e => exact ⟨[], _, rfl, rfl, by simp, by simp⟩
  | failed e => exact ⟨[_], _, rfl, rfl, by simp, by simp⟩
  | accepted answer => exact ⟨[_, _], _, rfl, by cases answer <;> rfl, by simp, by simp⟩
  | refused e hreport answer => exact ⟨_, _, rfl, by cases answer <;> rfl, by simp, by simp⟩
  | unreported e hreport =>
    cases hreport with
    | unnamed hlogs p => exact ⟨[_, _], _, rfl, rfl, by simp, fun _ _ => hlogs⟩

/-- Where an attempt changes the access mode, it does so second and once, and looks again after a
    refusal, unless the report of the refusal panics. -/
theorem Attempted.change {answer : Except Panic Bool} (h : Attempted logs cs answer) :
    (∀ c ∈ cs, c.sets = false) ∨
      ∃ a rest, cs = .isAccessible (.ok false) :: .setAccessible true a :: rest ∧
        (∀ c ∈ rest, c.sets = false) ∧
        ∀ e, a = .ok (.error e) →
          (∃ look, .isAccessible look ∈ rest) ∨ ∃ p, logs = true ∧ rest = [.name (.error p)] := by
  cases h with
  | seen | unseen => exact .inl (List.forall_mem_singleton.mpr rfl)
  | failed e => exact .inr ⟨_, [], rfl, by simp, by simp⟩
  | accepted look => exact .inr ⟨_, [_], rfl, List.forall_mem_singleton.mpr rfl, by simp⟩
  | @refused e cs hreport =>
    have hlook : ∀ c ∈ [Contact.isAccessible answer], c.sets = false :=
      List.forall_mem_singleton.mpr rfl
    refine .inr ⟨.ok (.error e), cs ++ [.isAccessible answer], by simp,
      List.forall_mem_append.mpr ⟨hreport.sets_eq_false, hlook⟩, fun _ _ => ?_⟩
    exact .inl ⟨answer, List.mem_append_right cs (List.mem_singleton.mpr rfl)⟩
  | @unreported e cs p hreport =>
    refine .inr ⟨_, cs, rfl, hreport.sets_eq_false, fun _ _ => ?_⟩
    cases hreport with
    | unnamed hlogs => exact .inr ⟨p, hlogs, rfl⟩

variable {answer : Except Panic Bool}

/-- The last contact of an elevation decides: a yes is the yes of a look, and a panic is that of the
    only contact or of a report after another panic. -/
theorem Course.last (h : Course logs cs answer) :
    ∃ before c, cs = before ++ [c] ∧ (answer = .ok true ↔ c = .isAccessible (.ok true)) ∧
      (answer = .error .panic ↔ before = [] ∧ c = .accessMode (.error .panic) ∨
        c = .name (.error .panic)) ∧
      (c = .name (.error .panic) → logs = true ∧ ∃ c' ∈ before, c'.panicked = true) := by
  cases h with
  | hidden e => exact ⟨[], _, rfl, by simp, by simp, by simp⟩
  | unsupported => exact ⟨[], _, rfl, by simp, by simp, by simp⟩
  | @attempted cs yes h =>
    obtain ⟨before, c, rfl, hc, hyes, -⟩ := h.last
    -- The last contact of an attempt that comes to an answer did not panic.
    have hname : c ≠ .name (.error .panic) := by
      rintro rfl
      exact absurd hc (by simp [Contact.panicked, Except.isOk, Except.toBool])
    exact ⟨.accessMode (.ok true) :: before, c, rfl, hyes.symm, by simp [hname], fun h => absurd h hname⟩
  | @caught cs cs' e h answer hreport =>
    obtain ⟨before, c, rfl, hc, hyes, hlogs⟩ := h.last
    cases hreport with
    | silent hsilent =>
      -- Without a log nobody asks for the name, so the caught panic was that of some other contact.
      have hname : c ≠ .name (.error .panic) := fun h =>
        absurd (hlogs _ h) (by simp [hsilent])
      refine ⟨.accessMode (.ok true) :: before, c, by simp, ?_, ?_, fun h => absurd h hname⟩
      · rw [hyes]
        exact ⟨fun h => absurd h (by simp [Except.map]), fun h => absurd h (by simp)⟩
      · simp [Except.map, hname]
    | written hlogs name =>
      refine ⟨.accessMode (.ok true) :: before ++ [c], _, rfl, ?_, ?_, ?_⟩ <;> simp [Except.map]
    | unnamed hlogs e =>
      refine ⟨.accessMode (.ok true) :: before ++ [c], _, rfl, ?_, ?_, ?_⟩
      · simp [Except.map]
      · simp [Except.map]
      · exact fun _ => ⟨hlogs, c, by simp, hc⟩

/-- No contact of an elevation that answers yes has panicked. -/
theorem Course.panicked_eq_false (h : Course logs cs (.ok true)) : ∀ c ∈ cs, c.panicked = false := by
  generalize hanswer : Except.ok true = answer at h
  cases h with
  | hidden | unsupported => exact absurd hanswer (by simp)
  | attempted h => exact List.forall_mem_cons.mpr ⟨rfl, h.panicked_eq_false⟩
  | @caught _ _ _ _ answer => cases answer <;> exact absurd hanswer (by simp [Except.map])

/-- Where an elevation changes the access mode, it does so third and once, after a look that answered
    no, and looks again after a refusal, unless the report of the refusal panics. -/
theorem Course.change (h : Course logs cs answer) :
    (∀ c ∈ cs, c.sets = false) ∨
      ∃ a rest,
        cs = .accessMode (.ok true) :: .isAccessible (.ok false) :: .setAccessible true a :: rest ∧
        (∀ c ∈ rest, c.sets = false) ∧
        ∀ e, a = .ok (.error e) →
          (∃ look, .isAccessible look ∈ rest) ∨
            ∃ after, logs = true ∧ rest = .name (.error .panic) :: after := by
  cases h with
  | hidden | unsupported => exact .inl (List.forall_mem_singleton.mpr rfl)
  | attempted h =>
    rcases h.change with hno | ⟨a, rest, rfl, hrest, hlook⟩
    · exact .inl (List.forall_mem_cons.mpr ⟨rfl, hno⟩)
    · refine .inr ⟨a, rest, rfl, hrest, fun e he => ?_⟩
      rcases hlook e he with hlook | ⟨⟨⟩, hlogs, rfl⟩
      · exact .inl hlook
      · exact .inr ⟨[], hlogs, rfl⟩
  | @caught cs cs' e h answer hreport =>
    -- What the course adds, before and after the attempt, changes nothing.
    rcases h.change with hno | ⟨a, rest, rfl, hrest, hlook⟩
    · have hattempt : ∀ c ∈ .accessMode (.ok true) :: cs, c.sets = false :=
        List.forall_mem_cons.mpr ⟨rfl, hno⟩
      exact .inl (List.forall_mem_append.mpr ⟨hattempt, hreport.sets_eq_false⟩)
    · refine .inr ⟨a, rest ++ cs', rfl,
        List.forall_mem_append.mpr ⟨hrest, hreport.sets_eq_false⟩, fun e he => ?_⟩
      rcases hlook e he with ⟨look, hlook⟩ | ⟨⟨⟩, hlogs, rfl⟩
      · exact .inl ⟨look, List.mem_append_left cs' hlook⟩
      · exact .inr ⟨cs', hlogs, rfl⟩

/-- Where the third of some contacts alone may change the access mode, it is the one that does. -/
theorem Contact.split_third {before after rest : List Contact} {first second third c : Contact}
    (hfirst : first.sets = false) (hsecond : second.sets = false) (hrest : ∀ d ∈ rest, d.sets = false)
    (hc : c.sets = true) (h : first :: second :: third :: rest = before ++ c :: after) :
    before = [first, second] ∧ c = third ∧ after = rest := by
  have hne : ∀ d : Contact, d.sets = false → d ≠ c := by
    rintro d hd rfl
    rw [hc] at hd
    cases hd
  -- A change cannot be among the first two nor in the rest, so it stands where the third does.
  match before, h with
  | [], h => exact absurd (List.cons.inj h).1 (hne first hfirst)
  | [_], h => exact absurd (List.cons.inj (List.cons.inj h).2).1 (hne second hsecond)
  | [_, _], h =>
    simp only [List.cons_append, List.nil_append, List.cons.injEq] at h
    obtain ⟨rfl, rfl, rfl, rfl⟩ := h
    exact ⟨rfl, rfl, rfl⟩
  | _ :: _ :: _ :: before, h =>
    simp only [List.cons_append, List.cons.injEq] at h
    have hmem : c ∈ rest := by
      rw [h.2.2.2]
      exact List.mem_append_right before List.mem_cons_self
    exact absurd rfl (hne c (hrest c hmem))

/-- What stands before and after a change of the access mode in an elevation. -/
theorem Course.split (h : Course logs cs answer) {before after : List Contact} {flag : Bool}
    {a : Except Panic (Except AccessDenied Unit)} (hcs : cs = before ++ .setAccessible flag a :: after) :
    flag = true ∧ before = [.accessMode (.ok true), .isAccessible (.ok false)] ∧
      (∀ c ∈ after, c.sets = false) ∧
      ∀ e, a = .ok (.error e) →
        (∃ look, .isAccessible look ∈ after) ∨ logs = true ∧ after.head? = some (.name (.error .panic)) := by
  rcases h.change with hno | ⟨a', rest, hchange, hrest, hlook⟩
  · have hmem : .setAccessible flag a ∈ cs := by
      rw [hcs]
      exact List.mem_append_right before List.mem_cons_self
    exact absurd (hno _ hmem) (by simp [Contact.sets])
  · obtain ⟨rfl, hc, rfl⟩ := Contact.split_third rfl rfl hrest rfl (hchange.symm.trans hcs)
    obtain ⟨rfl, rfl⟩ := Contact.setAccessible.inj hc
    refine ⟨rfl, rfl, hrest, fun e he => ?_⟩
    rcases hlook e he with hlook | ⟨_, hlogs, rfl⟩
    · exact .inl hlook
    · exact .inr ⟨hlogs, rfl⟩

/-- The access mode is changed once at most. -/
theorem Course.once (h : Course logs cs answer) : (cs.filter Contact.sets).length ≤ 1 := by
  rcases h.change with hno | ⟨a, rest, rfl, hrest, -⟩
  · have hnil : cs.filter Contact.sets = [] := List.filter_eq_nil_iff.mpr fun c hc => by simp [hno c hc]
    rw [hnil]
    exact Nat.zero_le 1
  · have hnil : rest.filter Contact.sets = [] :=
      List.filter_eq_nil_iff.mpr fun c hc => by simp [hrest c hc]
    show (Contact.setAccessible true a :: rest.filter Contact.sets).length ≤ 1
    rw [hnil]
    exact Nat.le_refl 1

end Course

namespace Reflected

variable {σ : Type} (r : Reflected (Panicking σ)) (log : Option (ElevationNote → StateM σ Unit))

/-- What holds of an elevation of the member from the hidden state `s`. -/
structure PanicLaws (s : σ) : Prop where
  /-- To write the contacts down changes neither the answer nor the hidden state. -/
  observed : (elevate (logging log) r).run.run s =
    ((r.elevation log s).1, (r.elevation log s).2.hidden)
  /-- The panics that escape are that of the question for the access mode, and that of the question
      for the name where it comes last. Any other panic is folded into an answer. -/
  escape : (r.elevation log s).1 = .error .panic ↔
    (r.elevation log s).2.contacts = [.accessMode (.error .panic)] ∨
      (r.elevation log s).2.contacts.getLast? = some (.name (.error .panic))
  /-- The latter takes a log, and a member that has panicked before. -/
  unnamed : (r.elevation log s).2.contacts.getLast? = some (.name (.error .panic)) →
    log.isSome ∧ ∃ c ∈ (r.elevation log s).2.contacts.dropLast, c.panicked
  /-- The answer is yes where the last contact is a look that answered yes, -/
  yes : (r.elevation log s).1 = .ok true ↔
    (r.elevation log s).2.contacts.getLast? = some (.isAccessible (.ok true))
  /-- and then no contact has panicked. -/
  calm : (r.elevation log s).1 = .ok true →
    ∀ c ∈ (r.elevation log s).2.contacts, c.panicked = false
  /-- The access mode is only ever changed to accessible, right after a look that answered no, -/
  change : ∀ (before after : List Contact) (flag : Bool) (a : Except Panic (Except AccessDenied Unit)),
    (r.elevation log s).2.contacts = before ++ .setAccessible flag a :: after →
      flag = true ∧ before = [.accessMode (.ok true), .isAccessible (.ok false)]
  /-- and at most once. -/
  once : ((r.elevation log s).2.contacts.filter (·.sets)).length ≤ 1
  /-- After a refusal the member is looked at again, unless the report of the refusal panics. -/
  again : ∀ (before after : List Contact) (flag : Bool) (e : AccessDenied),
    (r.elevation log s).2.contacts = before ++ .setAccessible flag (.ok (.error e)) :: after →
      (∃ look, .isAccessible look ∈ after) ∨ log.isSome ∧ after.head? = some (.name (.error .panic))

/-- The laws hold of every member, from every hidden state, and with a log or without one. -/
theorem panicLaws (s : σ) : r.PanicLaws log s := by
  have h := r.course_elevation log s
  obtain ⟨before, c, hcs, hyes, hescape, hunnamed⟩ := h.last
  have hlast : ∀ d, (r.elevation log s).2.contacts.getLast? = some d ↔ c = d := by
    intro d
    rw [hcs, List.getLast?_append, List.getLast?_singleton, Option.some_or, Option.some_inj]
  refine ⟨r.erases_elevate log ⟨s, []⟩, ?_, fun hc => ?_, ?_, fun hyes => ?_, ?_, h.once, ?_⟩
  · rw [hescape, hlast, hcs, List.append_eq_singleton_iff]
    simp
  · rw [hcs, List.dropLast_concat]
    exact hunnamed ((hlast _).mp hc)
  · rw [hyes, hlast]
  · rw [hyes] at h
    exact h.panicked_eq_false
  · intro before after flag a hcs
    obtain ⟨hflag, hbefore, -, -⟩ := h.split hcs
    exact ⟨hflag, hbefore⟩
  · intro before after flag e hcs
    obtain ⟨-, -, -, hagain⟩ := h.split hcs
    exact hagain e rfl

/-- A member whose question for the access mode panics. -/
def touchy : Reflected (Panicking Unit) where
  name := pure "touchy"
  isVariadic := pure false
  accessMode := throw .panic

/-- A member that denies access. It panics when it is asked for its name. -/
def nameless : Reflected (Panicking Unit) where
  name := throw .panic
  isVariadic := pure false
  accessMode := pure (some
    { isAccessible := pure false
      setAccessible := fun _ => pure (.error ⟨"nameless"⟩) })

/-- The first escapes an elevation, with a log and without one. The second does with a log, and the
    member is not looked at again. -/
theorem escapes_of_outside :
    (touchy.elevation none ()).1 = .error .panic ∧
      (nameless.elevation (some fun _ => pure ()) ()).1 = .error .panic ∧
      (nameless.elevation (some fun _ => pure ()) ()).2.contacts =
        [.accessMode (.ok true), .isAccessible (.ok false),
          .setAccessible true (.ok (.error ⟨"nameless"⟩)),
          .name (.error .panic), .name (.error .panic)] :=
  ⟨rfl, rfl, rfl⟩

end Reflected

end Interop
