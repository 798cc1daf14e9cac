import Interop.Proofs.Cache

namespace Interop

/-!
# Races for types

Any number of callers ask one caching platform for types at once. A request is not atomic: it looks
its key up, removes dead entries, synthesizes, settles on one type for the key, and returns, and
between any two of these steps the others go on and references are dropped.

* `Phase`, `Caller`, `Race` — how far a caller is and what it holds; all callers with the cache.
* `Turn`, `Race.step`, `Race.run` — one atomic step of anybody, and any schedule of them.
* `Race.Made`, `Race.Gave`, `Race.Beaten` — who synthesized a type, settled on it, or lost.
* `Race.solo` — a caller that nobody interrupts does what `TypeCache.request` does.

The steps are the critical sections of a request: between two of them nothing is locked. A caller that
has synthesized keeps its type alive until it returns, even if it lost, and that is visible to the
others only through the cache, where the question is what is alive; so the callers are part of what
keeps types alive. The cache knows nothing of callers. Besides what it keeps alive, a proof needs to
know of a caller what it has synthesized and what it settled on, two functions of its phase, and `Has`
speaks of both at once; the lemmas about it are about one caller that moves on while the others stand
still.
-/

/-- How far a caller is in its request. -/
inductive Phase
  /-- It has yet to look its key up. -/
  | asked
  /-- It found no live type, and has yet to remove dead entries. -/
  | missed
  /-- It has yet to synthesize. -/
  | swept
  /-- It synthesized a type, and has yet to settle on one. -/
  | built (t : ProxyType)
  /-- It is about to return `t`; `made` is what it synthesized itself. -/
  | settled (t : ProxyType) (made : Option ProxyType)
  | returned (r : Except ConstructionError ProxyType) (made : Option ProxyType)

namespace Phase

/-- The type that the caller synthesized. -/
def made? : Phase → Option ProxyType
  | built t => some t
  | settled _ made | returned _ made => made
  | asked | missed | swept => none

/-- The type that the caller settled on. -/
def answer? : Phase → Option ProxyType
  | settled t _ | returned (.ok t) _ => some t
  | _ => none

/-- The types that the caller keeps alive by itself. Its own type goes when it returns. -/
def owned : Phase → List ProxyType
  | built t => [t]
  | settled t made => t :: made.toList
  | asked | missed | swept | returned .. => []

/-- What the caller synthesized or settled on in the first phase, it did so in the second, too. -/
structure Before (p q : Phase) : Prop where
  made : ∀ t, p.made? = some t → q.made? = some t
  answer : ∀ t, p.answer? = some t → q.answer? = some t

/-- A caller that has nothing loses nothing. -/
theorem Before.of_none {p q : Phase} (hmade : p.made? = none) (hanswer : p.answer? = none) :
    p.Before q := by
  constructor
  · intro t h
    rw [hmade] at h
    cases h
  · intro t h
    rw [hanswer] at h
    cases h

/-- A caller that settles on a type keeps its own. -/
theorem Before.of_built (t winner : ProxyType) : (built t).Before (settled winner (some t)) := by
  constructor
  · intro u h
    exact h
  · intro u h
    cases h

/-- To return gives up neither the type nor the own one. -/
theorem Before.of_settled (t : ProxyType) (made : Option ProxyType) :
    (settled t made).Before (returned (.ok t) made) :=
  ⟨fun _ h => h, fun _ h => h⟩

/-- A phase loses nothing to itself. -/
theorem Before.refl (p : Phase) : p.Before p :=
  ⟨fun _ h => h, fun _ h => h⟩

end Phase

/-- A caller with its request. -/
structure Caller where
  domain : Domain
  interfaces : List Interface
  phase : Phase := .asked

/-- The key of a caller's request. -/
def Caller.key (c : Caller) : TypeKey :=
  TypeKey.of c.domain c.interfaces

/-- One caching platform in use by any number of callers. -/
structure Race where
  /-- The number of the next proxy type. -/
  next : Nat := 0
  cache : TypeCache := {}
  callers : List Caller := []
  /-- The references to returned types in circulation, with the keys they were requested under. -/
  held : List (TypeKey × ProxyType) := []

/-- Whose turn it is, and what happens. A place is a position among the references. -/
inductive Turn
  /-- Somebody asks for a type. -/
  | call (d : Domain) (is : List Interface)
  /-- A caller takes its next step. -/
  | advance (caller : Nat)
  | clone (place : Nat)
  | drop (place : Nat)
  /-- Another platform takes a type number. -/
  | elsewhere

namespace Race

variable (s : Race)

/-- Whether somebody keeps the type of that number alive: a returned reference, or a caller. -/
def alive (n : Nat) : Bool :=
  s.held.any (·.2.id == n) || s.callers.any (·.phase.owned.any (·.id == n))

/-- Caller `i`, so far `c`, moves on to phase `p`. -/
def put (i : Nat) (c : Caller) (p : Phase) : Race :=
  { s with callers := s.callers.set i { c with phase := p } }

/-- The next step of caller `i`, so far `c`. -/
def advance (i : Nat) (c : Caller) : Race :=
  match c.phase with
  | .asked =>
    match s.cache.live? s.alive c.key with
    | some t => s.put i c (.settled t none)
    | none => s.put i c .missed
  | .missed => { s with cache := s.cache.prune s.alive }.put i c .swept
  | .swept =>
    match synthesize s.next c.domain c.interfaces with
    | .error e => s.put i c (.returned (.error e) none)
    | .ok t => { s with next := s.next + 1 }.put i c (.built t)
  | .built t =>
    let (winner, cache) := s.cache.adopt s.alive c.key t
    { s with cache }.put i c (.settled winner (some t))
  | .settled t made => { s with held := (c.key, t) :: s.held }.put i c (.returned (.ok t) made)
  | .returned .. => s

/-- The race after a turn. -/
def step : Turn → Race
  | .call d is => { s with callers := s.callers ++ [{ domain := d, interfaces := is }] }
  | .advance i =>
    match s.callers[i]? with
    | none => s
    | some c => s.advance i c
  | .clone place =>
    match s.held[place]? with
    | none => s
    | some e => { s with held := e :: s.held }
  | .drop place => { s with held := s.held.eraseIdx place }
  | .elsewhere => { s with next := s.next + 1 }

/-- The race after turns in order. -/
def steps (ts : List Turn) : Race :=
  ts.foldl step s

/-- The race after turns in order from the start. -/
def run (ts : List Turn) : Race :=
  steps {} ts

/-- Caller `i`, who asked under key `k`, has `t` for `f`. -/
def Has (f : Phase → Option ProxyType) (i : Nat) (k : TypeKey) (t : ProxyType) : Prop :=
  ∃ c, s.callers[i]? = some c ∧ c.key = k ∧ f c.phase = some t

/-- Caller `i`, who asked under key `k`, synthesized `t`. -/
def Made (i : Nat) (k : TypeKey) (t : ProxyType) : Prop :=
  s.Has Phase.made? i k t

/-- Caller `i`, who asked under key `k`, settled on `t`. -/
def Gave (i : Nat) (k : TypeKey) (t : ProxyType) : Prop :=
  s.Has Phase.answer? i k t

/-- Caller `i` returned `t`. -/
def Returned (i : Nat) (t : ProxyType) : Prop :=
  ∃ c made, s.callers[i]? = some c ∧ c.phase = .returned (.ok t) made

/-- Caller `i` synthesized `t` and lost the race. -/
def Beaten (i : Nat) (t : ProxyType) : Prop :=
  ∃ k winner, s.Made i k t ∧ s.Gave i k winner ∧ winner ≠ t

variable {s} {i : Nat} {c : Caller} {p : Phase} {t : ProxyType} {k : TypeKey}

/-! ### A caller moves on

A step of one caller changes its own phase and leaves those of the others as they are.
-/

/-- The callers after one of them moved on. -/
theorem callers_put (hc : s.callers[i]? = some c) (j : Nat) :
    (s.put i c p).callers[j]? = if j = i then some { c with phase := p } else s.callers[j]? := by
  have hi : i < s.callers.length := (List.getElem?_eq_some_iff.mp hc).1
  show (s.callers.set i _)[j]? = _
  rw [List.getElem?_set]
  by_cases hj : j = i
  · rw [if_pos hj, if_pos hj.symm, if_pos hi]
  · rw [if_neg hj, if_neg (Ne.symm hj)]

section

variable {f : Phase → Option ProxyType}

/-- Whoever has a type after a caller moved on had it before, or is that caller. -/
theorem has_of_put (hc : s.callers[i]? = some c) {j : Nat} (h : (s.put i c p).Has f j k t) :
    s.Has f j k t ∨ (j = i ∧ c.key = k ∧ f p = some t) := by
  obtain ⟨c', hc', hk, ht⟩ := h
  rw [callers_put hc] at hc'
  split at hc'
  next hj =>
    cases hc'
    exact .inr ⟨hj, hk, ht⟩
  next => exact .inl ⟨c', hc', hk, ht⟩

/-- The caller that moved on has what its new phase says. -/
theorem has_put_self (hc : s.callers[i]? = some c) (h : f p = some t) :
    (s.put i c p).Has f i c.key t :=
  ⟨{ c with phase := p }, by rw [callers_put hc, if_pos rfl], rfl, h⟩

/-- If a caller that moves on keeps what it had, so do all. -/
theorem has_put (hc : s.callers[i]? = some c) (hp : ∀ u, f c.phase = some u → f p = some u)
    {j : Nat} (h : s.Has f j k t) : (s.put i c p).Has f j k t := by
  obtain ⟨c', hc', hk, ht⟩ := h
  -- The caller has what its new phase says, and the others have what they had.
  by_cases hj : j = i
  · subst hj
    rw [hc] at hc'
    cases hc'
    exact hk ▸ has_put_self hc (hp t ht)
  · exact ⟨c', by rw [callers_put hc, if_neg hj, hc'], hk, ht⟩

/-- If a caller that moves on has what it had and no more, so do all. -/
theorem has_put_iff (hc : s.callers[i]? = some c) (hp : f p = f c.phase) {j : Nat} :
    (s.put i c p).Has f j k t ↔ s.Has f j k t := by
  constructor
  · intro h
    rcases has_of_put hc h with h | ⟨rfl, hk, ht⟩
    · exact h
    · exact ⟨c, hc, hk, hp ▸ ht⟩
  · exact has_put hc fun u hu => hp ▸ hu

/-- What anybody has, it has when another one calls. -/
theorem has_call {d : Domain} {is : List Interface} {j : Nat} (h : s.Has f j k t) :
    (s.step (.call d is)).Has f j k t := by
  obtain ⟨c', hc', hk, ht⟩ := h
  refine ⟨c', ?_, hk, ht⟩
  show (s.callers ++ _)[j]? = some c'
  rw [List.getElem?_append_left (List.getElem?_eq_some_iff.mp hc').1, hc']

/-- A new caller has nothing yet. -/
theorem has_call_iff {d : Domain} {is : List Interface} (hf : f .asked = none) {j : Nat} :
    (s.step (.call d is)).Has f j k t ↔ s.Has f j k t := by
  refine ⟨?_, has_call⟩
  rintro ⟨c', hc', hk, ht⟩
  replace hc' : (s.callers ++ [{ domain := d, interfaces := is }])[j]? = some c' := hc'
  rw [List.getElem?_append] at hc'
  split at hc'
  · exact ⟨c', hc', hk, ht⟩
  · rw [List.mem_singleton.mp (List.mem_of_getElem? hc'), hf] at ht
    cases ht

end

/-- Alive is what a reference or a caller keeps alive. -/
theorem alive_eq_true_iff {n : Nat} : s.alive n = true ↔
    (∃ e ∈ s.held, e.2.id = n) ∨ ∃ c ∈ s.callers, ∃ t ∈ c.phase.owned, t.id = n := by
  simp [alive]

/-- What a caller owns is alive. -/
theorem alive_of_owned (hc : s.callers[i]? = some c) (ht : t ∈ c.phase.owned) :
    s.alive t.id = true :=
  alive_eq_true_iff.mpr (.inr ⟨c, List.mem_of_getElem? hc, t, ht, rfl⟩)

/-- Only what the caller owns in its new phase may be alive anew. -/
theorem alive_put {n : Nat} (h : (s.put i c p).alive n = true) :
    (∃ t ∈ p.owned, t.id = n) ∨ s.alive n = true := by
  rcases alive_eq_true_iff.mp h with hheld | ⟨c', hc', hown⟩
  · exact .inr (alive_eq_true_iff.mpr (.inl hheld))
  · rcases List.mem_or_eq_of_mem_set hc' with hc' | rfl
    · exact .inr (alive_eq_true_iff.mpr (.inr ⟨c', hc', hown⟩))
    · exact .inl hown

/-- One more reference keeps one more type alive. -/
theorem alive_hold {e : TypeKey × ProxyType} {n : Nat}
    (h : { s with held := e :: s.held }.alive n = true) : e.2.id = n ∨ s.alive n = true := by
  rcases alive_eq_true_iff.mp h with ⟨e', he', hid⟩ | h
  · rcases List.mem_cons.mp he' with rfl | he'
    · exact .inl hid
    · exact .inr (alive_eq_true_iff.mpr (.inl ⟨e', he', hid⟩))
  · exact .inr (alive_eq_true_iff.mpr (.inr h))

/-! ### A caller that nobody interrupts

The caller is put last, so that its steps can be followed without a look at the others: each lemma
says what one step makes of a race with this caller in it.
-/

/-- The race with one more caller, the last. -/
def join (s : Race) (c : Caller) : Race :=
  { s with callers := s.callers ++ [c] }

/-- The race with a request answered. -/
def answer (s : Race) (k : TypeKey) (r : TypeCache.Response) : Race :=
  { s with
    next := r.next
    cache := r.cache
    held := match r.result with
      | .ok t => (k, t) :: s.held
      | .error _ => s.held }

/-- The last caller takes its step. -/
theorem step_join (s : Race) (c : Caller) :
    (s.join c).step (.advance s.callers.length) = (s.join c).advance s.callers.length c := by
  show (match (s.callers ++ [c])[s.callers.length]? with | none => _ | some c => _) = _
  rw [List.getElem?_concat_length]

/-- The last caller moves on. -/
theorem put_join (s : Race) (c : Caller) (p : Phase) :
    (s.join c).put s.callers.length c p = s.join { c with phase := p } := by
  simp [put, join]

/-- The last caller keeps alive what it owns. -/
theorem alive_join (s : Race) (c : Caller) (n : Nat) :
    (s.join c).alive n = (s.alive n || c.phase.owned.any (·.id == n)) := by
  simp [alive, join, Bool.or_assoc]

/-- A caller that owns nothing keeps nothing alive. -/
theorem alive_join_of_nil (s : Race) {c : Caller} (h : c.phase.owned = []) :
    (s.join c).alive = s.alive := by
  funext n
  rw [alive_join, h, List.any_nil, Bool.or_false]

section

variable {d : Domain} {is : List Interface}

/-- A caller that finds a live type settles on it. -/
theorem step_hit (h : s.cache.live? s.alive (TypeKey.of d is) = some t) :
    (s.join ⟨d, is, .asked⟩).step (.advance s.callers.length) =
      s.join ⟨d, is, .settled t none⟩ := by
  have hlive : (s.join ⟨d, is, .asked⟩).cache.live? (s.join ⟨d, is, .asked⟩).alive
      (TypeKey.of d is) = some t := by
    rw [alive_join_of_nil s rfl]
    exact h
  rw [step_join]
  simp only [advance, Caller.key, hlive]
  exact put_join s ..

/-- A caller that finds none goes on. -/
theorem step_miss (h : s.cache.live? s.alive (TypeKey.of d is) = none) :
    (s.join ⟨d, is, .asked⟩).step (.advance s.callers.length) = s.join ⟨d, is, .missed⟩ := by
  have hlive : (s.join ⟨d, is, .asked⟩).cache.live? (s.join ⟨d, is, .asked⟩).alive
      (TypeKey.of d is) = none := by
    rw [alive_join_of_nil s rfl]
    exact h
  rw [step_join]
  simp only [advance, Caller.key, hlive]
  exact put_join s ..

/-- Then it removes the dead entries. -/
theorem step_sweep : (s.join ⟨d, is, .missed⟩).step (.advance s.callers.length) =
    { s with cache := s.cache.prune s.alive }.join ⟨d, is, .swept⟩ := by
  rw [step_join]
  simp only [advance]
  -- A caller that has only looked keeps nothing alive, so what is dead is what was dead.
  rw [alive_join_of_nil s rfl]
  exact put_join { s with cache := s.cache.prune s.alive } ..

/-- A list that is refused is answered with the error. -/
theorem step_refused {e : ConstructionError} (h : synthesize s.next d is = .error e) :
    (s.join ⟨d, is, .swept⟩).step (.advance s.callers.length) =
      s.join ⟨d, is, .returned (.error e) none⟩ := by
  rw [step_join]
  have h' : synthesize (s.join ⟨d, is, .swept⟩).next d is = .error e := h
  simp only [advance, h']
  exact put_join s ..

/-- Any other list gets a type with the next number. -/
theorem step_built (h : synthesize s.next d is = .ok t) :
    (s.join ⟨d, is, .swept⟩).step (.advance s.callers.length) =
      { s with next := s.next + 1 }.join ⟨d, is, .built t⟩ := by
  rw [step_join]
  have h' : synthesize (s.join ⟨d, is, .swept⟩).next d is = .ok t := h
  simp only [advance, h']
  exact put_join { s with next := s.next + 1 } ..

/-- If there is no entry under its key by then, its own type becomes the entry. -/
theorem step_won (h : s.cache.find? (TypeKey.of d is) = none) :
    (s.join ⟨d, is, .built t⟩).step (.advance s.callers.length) =
      { s with cache := s.cache.insert (TypeKey.of d is) t }.join ⟨d, is, .settled t (some t)⟩ := by
  rw [step_join]
  have hlive : (s.join ⟨d, is, .built t⟩).cache.live? (s.join ⟨d, is, .built t⟩).alive
      (TypeKey.of d is) = none := by
    show (s.cache.find? _).filter _ = none
    rw [h, Option.filter_none]
  simp only [advance, TypeCache.adopt, Caller.key, hlive]
  exact put_join { s with cache := s.cache.insert (TypeKey.of d is) t } ..

/-- What it settled on is handed out. -/
theorem step_settled {made : Option ProxyType} :
    (s.join ⟨d, is, .settled t made⟩).step (.advance s.callers.length) =
      { s with held := (TypeKey.of d is, t) :: s.held }.join ⟨d, is, .returned (.ok t) made⟩ := by
  rw [step_join]
  exact put_join { s with held := (TypeKey.of d is, t) :: s.held } ..

/-- A caller that has returned does nothing. -/
theorem step_returned {r : Except ConstructionError ProxyType} {made : Option ProxyType} :
    (s.join ⟨d, is, .returned r made⟩).step (.advance s.callers.length) =
      s.join ⟨d, is, .returned r made⟩ :=
  step_join ..

/-- From where it synthesizes, a caller that is refused returns the error. -/
theorem steps_refused {e : ConstructionError} (h : synthesize s.next d is = .error e) :
    (s.join ⟨d, is, .swept⟩).steps (List.replicate 3 (.advance s.callers.length)) =
      s.join ⟨d, is, .returned (.error e) none⟩ := by
  simp only [steps, List.replicate, List.foldl_cons, List.foldl_nil, step_refused h, step_returned]

/-- From where it synthesizes, a caller that finds no entry under its key returns its own type. -/
theorem steps_built (h : synthesize s.next d is = .ok t)
    (hfree : s.cache.find? (TypeKey.of d is) = none) :
    (s.join ⟨d, is, .swept⟩).steps (List.replicate 3 (.advance s.callers.length)) =
      { s with
        next := s.next + 1
        cache := s.cache.insert (TypeKey.of d is) t
        held := (TypeKey.of d is, t) :: s.held }.join ⟨d, is, .returned (.ok t) (some t)⟩ := by
  have hwon := step_won (t := t) (s := { s with next := s.next + 1 }) hfree
  simp only [steps, List.replicate, List.foldl_cons, List.foldl_nil, step_built h]
  rw [hwon]
  exact step_settled (s := { s with
    next := s.next + 1
    cache := s.cache.insert (TypeKey.of d is) t })

/-- A caller that nobody interrupts does what a request does, and has an answer after five steps. -/
theorem solo (hs : s.cache.Sound) (d : Domain) (is : List Interface) :
    ∃ made, s.steps (.call d is :: List.replicate 5 (.advance s.callers.length)) =
      (s.answer (TypeKey.of d is) (s.cache.request s.alive s.next d is)).join
        ⟨d, is, .returned (s.cache.request s.alive s.next d is).result made⟩ := by
  have hcall : s.step (.call d is) = s.join ⟨d, is, .asked⟩ := rfl
  simp only [steps, List.replicate, List.foldl_cons, List.foldl_nil, hcall]
  -- The cases are those of a request; a caller that returns early idles for the rest of its steps.
  cases hlive : s.cache.live? s.alive (TypeKey.of d is) with
  | some t =>
    rw [TypeCache.request_hit hlive, step_hit hlive]
    simp only [step_settled, step_returned]
    exact ⟨none, rfl⟩
  | none =>
    rw [step_miss hlive, step_sweep]
    cases hsyn : synthesize s.next d is with
    | error e =>
      rw [TypeCache.request_refused hlive hsyn]
      exact ⟨none, steps_refused (s := { s with cache := s.cache.prune s.alive }) hsyn⟩
    | ok t =>
      have hfree : (s.cache.prune s.alive).find? (TypeKey.of d is) = none := by
        rw [hs.find?_prune, hlive]
      rw [hs.request_made hlive hsyn]
      exact ⟨some t, steps_built (s := { s with cache := s.cache.prune s.alive }) hsyn hfree⟩

end

end Race

end Interop
