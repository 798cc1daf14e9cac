import Interop.Proofs.Race

namespace Interop

/-!
# Racing builders

However the steps of racing callers are interleaved with each other and with dropped references, a key
never has two types at once.

* `Race.Sound` — the invariant: what a caller settled on is the live entry of its key while it is
  alive, and its own maker settled on it, too.
* `Race.Sound.step`, `Race.Sound.run` — every turn keeps the invariant, so it holds under every
  schedule. The turns that matter are those in which a caller synthesizes or settles on a type,
  `Race.Sound.built` and `Race.Sound.settle`.
* `Race.Laws`, `Race.laws_run` — what racing builders can rely on, and that they can.

At no time are there two types in circulation under one key. What a caller found when it looked first
may be gone by the time it has synthesized, and others may have come; so the invariant says nothing
about what a caller has seen. It is about what callers have settled on: such a type has a maker, the
maker has settled on it, too, and for as long as it is alive the cache has it as the entry of its key.
A step settles on a type in two ways only, by finding it live or by putting it where nothing live was,
and `Sound.settle` is about both. Whoever loses settles on another type than his own, and since nobody
settles on a type whose maker did not, nobody ever settles on his.
-/

namespace Race

variable {s : Race} {i : Nat} {c : Caller} {p : Phase} {t : ProxyType} {k : TypeKey}

/-! ### The invariant -/

/-- The invariant of a race. -/
structure Sound (s : Race) : Prop where
  cache : s.cache.Sound
  /-- A synthesized type has a number from the counter and belongs under the key it was made for. -/
  made : ∀ i k t, s.Made i k t → t.id < s.next ∧ t.key = k ∧ t.Synthesized
  /-- Numbers tell who synthesized. -/
  distinct : ∀ i j k l t u, s.Made i k t → s.Made j l u → t.id = u.id → i = j
  /-- Whatever anybody settled on, its own maker settled on, too. -/
  winner : ∀ i k t, s.Gave i k t → ∃ j, s.Gave j k t ∧ s.Made j k t
  /-- Somebody settled on every type in the cache. -/
  entry : ∀ k t, s.cache.find? k = some t → ∃ i, s.Gave i k t
  /-- Somebody settled on every type in circulation. -/
  reference : ∀ k t, (k, t) ∈ s.held → ∃ i, s.Gave i k t
  /-- What somebody settled on is the entry of its key for as long as it is alive. -/
  kept : ∀ i k t, s.Gave i k t → s.alive t.id = true → s.cache.find? k = some t

/-- At the start nobody has asked, and the cache is empty. -/
theorem Sound.start : ({} : Race).Sound := by
  have hnone : ∀ f i k t, ¬ ({} : Race).Has f i k t := by
    rintro f i k t ⟨c, hc, -⟩
    simp at hc
  refine ⟨TypeCache.Sound.empty, ?_, ?_, ?_, ?_, ?_, ?_⟩
  · exact fun i k t h => absurd h (hnone _ i k t)
  · exact fun i j k l t u h => absurd h (hnone _ i k t)
  · exact fun i k t h => absurd h (hnone _ i k t)
  · intro k t h
    simp [TypeCache.find?] at h
  · intro k t h
    cases h
  · exact fun i k t h => absurd h (hnone _ i k t)

/-- What somebody settled on has a number from the counter. -/
theorem Sound.lt_next (hs : s.Sound) (h : s.Gave i k t) : t.id < s.next := by
  obtain ⟨j, -, hmade⟩ := hs.winner i k t h
  exact (hs.made j k t hmade).1

/-- Steps in which nobody synthesizes and nobody settles on a type. -/
theorem Sound.quiet (hs : s.Sound) {s' : Race} (hmade : ∀ i k t, s'.Made i k t ↔ s.Made i k t)
    (hgave : ∀ i k t, s'.Gave i k t ↔ s.Gave i k t)
    (hheld : ∀ k t, (k, t) ∈ s'.held → ∃ i, s.Gave i k t)
    (halive : ∀ n, s'.alive n = true → s.alive n = true) (hnext : s.next ≤ s'.next)
    (hcache : s'.cache = s.cache ∨ s'.cache = s.cache.prune s.alive) : s'.Sound := by
  -- Either cache finds what is alive, and nothing else than before.
  have hfind : ∀ k t, s'.cache.find? k = some t → s.cache.find? k = some t := by
    intro k t h
    rcases hcache with hc | hc
    · rwa [hc] at h
    · rw [hc, hs.cache.find?_prune] at h
      exact ((TypeCache.live?_eq_some_iff ..).mp h).1
  have hlive : ∀ k t, s.cache.find? k = some t → s.alive t.id = true →
      s'.cache.find? k = some t := by
    intro k t h ha
    rcases hcache with hc | hc
    · rwa [hc]
    · rw [hc, hs.cache.find?_prune]
      exact (TypeCache.live?_eq_some_iff ..).mpr ⟨h, ha⟩
  refine ⟨?_, ?_, ?_, ?_, ?_, ?_, ?_⟩
  · rcases hcache with hc | hc
    · rw [hc]
      exact hs.cache
    · rw [hc]
      exact hs.cache.prune s.alive
  · intro i k t h
    obtain ⟨hlt, hkey, hsyn⟩ := hs.made i k t ((hmade i k t).mp h)
    exact ⟨by omega, hkey, hsyn⟩
  · intro i j k l t u ht hu
    exact hs.distinct i j k l t u ((hmade i k t).mp ht) ((hmade j l u).mp hu)
  · intro i k t h
    obtain ⟨j, hgj, hmj⟩ := hs.winner i k t ((hgave i k t).mp h)
    exact ⟨j, (hgave j k t).mpr hgj, (hmade j k t).mpr hmj⟩
  · intro k t h
    obtain ⟨i, hi⟩ := hs.entry k t (hfind k t h)
    exact ⟨i, (hgave i k t).mpr hi⟩
  · intro k t h
    obtain ⟨i, hi⟩ := hheld k t h
    exact ⟨i, (hgave i k t).mpr hi⟩
  · intro i k t h ha
    have ha := halive _ ha
    exact hlive k t (hs.kept i k t ((hgave i k t).mp h) ha) ha

/-- A caller synthesizes a type, which takes the next number. -/
theorem Sound.built (hs : s.Sound) (hc : s.callers[i]? = some c) (hphase : c.phase = .swept)
    (ht : synthesize s.next c.domain c.interfaces = .ok t) :
    Sound ({ s with next := s.next + 1 }.put i c (.built t)) := by
  obtain ⟨hid, -, -, hsyn⟩ := synthesize_eq_ok ht
  have hbefore : c.phase.Before (.built t) := by
    rw [hphase]
    exact .of_none rfl rfl
  have hold : ∀ j k u, (s.put i c (.built t)).Made j k u →
      s.Made j k u ∨ (j = i ∧ c.key = k ∧ t = u) := by
    intro j k u h
    rcases has_of_put hc h with h | ⟨hj, hk, hu⟩
    · exact .inl h
    · exact .inr ⟨hj, hk, Option.some.inj hu⟩
  have hgave : ∀ j k u, (s.put i c (.built t)).Gave j k u → s.Gave j k u := by
    intro j k u h
    rcases has_of_put hc h with h | ⟨-, -, hu⟩
    · exact h
    · cases hu
  -- The number of the new type is the counter's: nobody else's type has it, and none that somebody
  -- settled on comes to life with it.
  refine ⟨hs.cache, ?_, ?_, ?_, ?_, ?_, ?_⟩
  · intro j k u h
    show u.id < s.next + 1 ∧ _
    rcases hold j k u h with h | ⟨-, rfl, rfl⟩
    · obtain ⟨hlt, hrest⟩ := hs.made j k u h
      exact ⟨by omega, hrest⟩
    · exact ⟨by omega, key_of_synthesize ht, hsyn⟩
  · intro j l k k' u v hu hv heq
    rcases hold j k u hu with hu | ⟨hj, -, rfl⟩ <;> rcases hold l k' v hv with hv | ⟨hl, -, rfl⟩
    · exact hs.distinct j l k k' u v hu hv heq
    · have := (hs.made j k u hu).1
      omega
    · have := (hs.made l k' v hv).1
      omega
    · rw [hj, hl]
  · intro j k u h
    obtain ⟨l, hg, hm⟩ := hs.winner j k u (hgave j k u h)
    exact ⟨l, has_put hc hbefore.answer hg, has_put hc hbefore.made hm⟩
  · intro k u h
    obtain ⟨j, hj⟩ := hs.entry k u h
    exact ⟨j, has_put hc hbefore.answer hj⟩
  · intro k u h
    obtain ⟨j, hj⟩ := hs.reference k u h
    exact ⟨j, has_put hc hbefore.answer hj⟩
  · intro j k u h ha
    have hg := hgave j k u h
    have hlt := hs.lt_next hg
    refine hs.kept j k u hg ?_
    rcases alive_put ha with ⟨v, hv, hvu⟩ | ha
    · rw [List.mem_singleton.mp hv] at hvu
      omega
    · exact ha

/-- A caller settles on `t` and leaves it as the entry of its key. Either somebody settled on `t`
    before, or the caller made it itself; and nothing else that is alive was settled on for the
    key. -/
theorem Sound.settle (hs : s.Sound) (hc : s.callers[i]? = some c) (hbefore : c.phase.Before p)
    (hmade : p.made? = c.phase.made?) (hanswer : p.answer? = some t)
    (howned : ∀ u ∈ p.owned, s.alive u.id = true) {cache : TypeCache} (hcache : cache.Sound)
    (hfind : cache.find? c.key = some t)
    (hother : ∀ k, k ≠ c.key → cache.find? k = s.cache.find? k)
    (hwinner : (∃ j, s.Gave j c.key t) ∨ s.Made i c.key t)
    (hfree : ∀ j u, s.Gave j c.key u → s.alive u.id = true → u = t) :
    Sound ({ s with cache }.put i c p) := by
  have hold : ∀ j k u, (s.put i c p).Made j k u → s.Made j k u :=
    fun _ _ _ => (has_put_iff hc hmade).mp
  have hgave : ∀ j k u, (s.put i c p).Gave j k u → s.Gave j k u ∨ (c.key = k ∧ t = u) := by
    intro j k u h
    rcases has_of_put hc h with h | ⟨-, hk, hu⟩
    · exact .inl h
    · exact .inr ⟨hk, Option.some.inj (hanswer ▸ hu)⟩
  have hself : (s.put i c p).Gave i c.key t := has_put_self hc hanswer
  refine ⟨hcache, ?_, ?_, ?_, ?_, ?_, ?_⟩
  · intro j k u h
    exact hs.made j k u (hold j k u h)
  · intro j l k k' u v hu hv
    exact hs.distinct j l k k' u v (hold j k u hu) (hold l k' v hv)
  · intro j k u h
    -- Whoever settled on the type before, its maker did; otherwise the maker is the caller.
    have hmaker : (∃ l, s.Gave l k u) ∨ (c.key = k ∧ t = u ∧ s.Made i c.key t) := by
      rcases hgave j k u h with h | ⟨rfl, rfl⟩
      · exact .inl ⟨j, h⟩
      · rcases hwinner with h | h
        · exact .inl h
        · exact .inr ⟨rfl, rfl, h⟩
    rcases hmaker with ⟨l, hl⟩ | ⟨rfl, rfl, hm⟩
    · obtain ⟨w, hw, hmw⟩ := hs.winner l k u hl
      exact ⟨w, has_put hc hbefore.answer hw, has_put hc hbefore.made hmw⟩
    · exact ⟨i, hself, has_put hc hbefore.made hm⟩
  · intro k u h
    replace h : cache.find? k = some u := h
    by_cases hk : k = c.key
    · rw [hk, hfind] at h
      cases h
      exact ⟨i, hk ▸ hself⟩
    · rw [hother k hk] at h
      obtain ⟨j, hj⟩ := hs.entry k u h
      exact ⟨j, has_put hc hbefore.answer hj⟩
  · intro k u h
    obtain ⟨j, hj⟩ := hs.reference k u h
    exact ⟨j, has_put hc hbefore.answer hj⟩
  · intro j k u h ha
    show cache.find? k = some u
    rcases hgave j k u h with h | ⟨rfl, rfl⟩
    · have halive : s.alive u.id = true := by
        rcases alive_put ha with ⟨v, hv, hid⟩ | ha
        · exact hid ▸ howned v hv
        · exact ha
      -- Under the caller's key only `t` is alive, and other keys find what they found.
      by_cases hk : k = c.key
      · subst hk
        rw [hfree j u h halive]
        exact hfind
      · rw [hother k hk]
        exact hs.kept j k u h halive
    · exact hfind

/-- A caller finds a live type under its key and settles on that. -/
theorem Sound.found (hs : s.Sound) (hc : s.callers[i]? = some c) (hbefore : c.phase.Before p)
    (hlive : s.cache.live? s.alive c.key = some t) (hmade : p.made? = c.phase.made?)
    (hanswer : p.answer? = some t) (howned : ∀ u ∈ p.owned, s.alive u.id = true) :
    (s.put i c p).Sound := by
  obtain ⟨hfind, -⟩ := (TypeCache.live?_eq_some_iff ..).mp hlive
  refine hs.settle hc hbefore hmade hanswer howned hs.cache hfind (fun _ _ => rfl)
    (.inl (hs.entry _ _ hfind)) ?_
  intro j u h ha
  have hu := hs.kept j c.key u h ha
  rw [hfind] at hu
  exact (Option.some.inj hu).symm

/-- A caller finds no live type under its key, and settles on its own. -/
theorem Sound.won (hs : s.Sound) (hc : s.callers[i]? = some c) (hphase : c.phase = .built t)
    (hmiss : s.cache.live? s.alive c.key = none) :
    Sound ({ s with cache := s.cache.insert c.key t }.put i c (.settled t (some t))) := by
  have hmade : s.Made i c.key t := ⟨c, hc, rfl, by rw [hphase]; rfl⟩
  obtain ⟨-, hkey, hsyn⟩ := hs.made i c.key t hmade
  have halive : s.alive t.id = true := alive_of_owned hc (by simp [hphase, Phase.owned])
  refine hs.settle hc (hphase ▸ .of_built t t) (by rw [hphase]; rfl) rfl ?_
    (hs.cache.insert hsyn hkey) (TypeCache.find?_insert_self ..)
    (fun k hk => TypeCache.find?_insert_of_ne _ hk t) (.inr hmade) ?_
  · intro u hu
    have hut : u = t := by simpa [Phase.owned] using hu
    rw [hut]
    exact halive
  · -- The key that was missed is not that of a live type.
    intro j u h ha
    have hfind := hs.kept j c.key u h ha
    rw [(TypeCache.live?_eq_some_iff ..).mpr ⟨hfind, ha⟩] at hmiss
    cases hmiss

/-- A caller moves on without synthesizing or settling on a type. -/
theorem Sound.pass (hs : s.Sound) (hc : s.callers[i]? = some c) (hmade : p.made? = c.phase.made?)
    (hanswer : p.answer? = c.phase.answer?) (howned : ∀ t ∈ p.owned, s.alive t.id = true) :
    (s.put i c p).Sound := by
  refine hs.quiet (fun _ _ _ => has_put_iff hc hmade) (fun _ _ _ => has_put_iff hc hanswer)
    hs.reference ?_ (Nat.le_refl _) (.inl rfl)
  intro n h
  rcases alive_put h with ⟨t, ht, rfl⟩ | h
  · exact howned t ht
  · exact h

/-- Every step of a caller keeps the invariant. -/
theorem Sound.advance (hs : s.Sound) (hc : s.callers[i]? = some c) : (s.advance i c).Sound := by
  unfold Race.advance
  cases hphase : c.phase with
  | asked =>
    cases hlive : s.cache.live? s.alive c.key with
    | some t =>
      refine hs.found hc (hphase ▸ .of_none rfl rfl) hlive (by rw [hphase]; rfl) rfl ?_
      intro u hu
      rw [List.mem_singleton.mp hu]
      exact ((TypeCache.live?_eq_some_iff ..).mp hlive).2
    | none => exact hs.pass hc (by rw [hphase]; rfl) (by rw [hphase]; rfl) (fun _ h => absurd h List.not_mem_nil)
  | missed =>
    refine hs.quiet (fun _ _ _ => has_put_iff (s := s) hc (by rw [hphase]; rfl))
      (fun _ _ _ => has_put_iff (s := s) hc (by rw [hphase]; rfl)) hs.reference ?_ (Nat.le_refl _)
      (.inr rfl)
    intro n h
    rcases alive_put h with ⟨t, ht, -⟩ | h
    · cases ht
    · exact h
  | swept =>
    cases ht : synthesize s.next c.domain c.interfaces with
    | error e => exact hs.pass hc (by rw [hphase]; rfl) (by rw [hphase]; rfl) (fun _ h => absurd h List.not_mem_nil)
    | ok t => exact hs.built hc hphase ht
  | built t =>
    -- Whether the caller wins depends on the cache now, not on what it found when it looked first.
    cases hlive : s.cache.live? s.alive c.key with
    | some winner =>
      simp only [TypeCache.adopt, hlive]
      refine hs.found hc (hphase ▸ .of_built t winner) hlive (by rw [hphase]; rfl) rfl ?_
      intro u hu
      rcases List.mem_cons.mp hu with rfl | hu
      · exact ((TypeCache.live?_eq_some_iff ..).mp hlive).2
      · exact alive_of_owned hc (by rw [hphase]; exact hu)
    | none =>
      simp only [TypeCache.adopt, hlive]
      exact hs.won hc hphase hlive
  | settled t made =>
    -- The type passes from the caller to whoever asked, and the caller's own type goes.
    have hgave : s.Gave i c.key t := ⟨c, hc, rfl, by rw [hphase]; rfl⟩
    have halive : s.alive t.id = true := alive_of_owned hc (by rw [hphase]; exact List.mem_cons_self)
    refine hs.quiet (fun _ _ _ => has_put_iff (s := s) hc (by rw [hphase]; rfl))
      (fun _ _ _ => has_put_iff (s := s) hc (by rw [hphase]; rfl)) ?_ ?_ (Nat.le_refl _) (.inl rfl)
    · intro k u h
      rcases List.mem_cons.mp h with heq | h
      · cases heq
        exact ⟨i, hgave⟩
      · exact hs.reference k u h
    · intro n h
      rcases alive_put h with ⟨u, hu, -⟩ | h
      · cases hu
      · rcases alive_hold h with rfl | h
        · exact halive
        · exact h
  | returned r made => exact hs

/-- Every turn keeps the invariant. -/
theorem Sound.step (hs : s.Sound) (turn : Turn) : (s.step turn).Sound := by
  cases turn with
  | call d is =>
    refine hs.quiet (fun _ _ _ => has_call_iff rfl) (fun _ _ _ => has_call_iff rfl) hs.reference ?_
      (Nat.le_refl _) (.inl rfl)
    intro n h
    rcases alive_eq_true_iff.mp h with h | ⟨c, hc, t, ht, hid⟩
    · exact alive_eq_true_iff.mpr (.inl h)
    · rcases List.mem_append.mp hc with hc | hc
      · exact alive_eq_true_iff.mpr (.inr ⟨c, hc, t, ht, hid⟩)
      · rw [List.mem_singleton.mp hc] at ht
        cases ht
  | advance i =>
    simp only [Race.step]
    split
    next => exact hs
    next c hc => exact hs.advance hc
  | clone place =>
    simp only [Race.step]
    split
    next => exact hs
    next e he =>
      have hmem : e ∈ s.held := List.mem_of_getElem? he
      refine hs.quiet (fun _ _ _ => Iff.rfl) (fun _ _ _ => Iff.rfl) ?_ ?_ (Nat.le_refl _) (.inl rfl)
      · intro k t h
        rcases List.mem_cons.mp h with rfl | h
        · exact hs.reference k t hmem
        · exact hs.reference k t h
      · intro n h
        rcases alive_hold h with rfl | h
        · exact alive_eq_true_iff.mpr (.inl ⟨e, hmem, rfl⟩)
        · exact h
  | drop place =>
    refine hs.quiet (fun _ _ _ => Iff.rfl) (fun _ _ _ => Iff.rfl) ?_ ?_ (Nat.le_refl _) (.inl rfl)
    · intro k t h
      exact hs.reference k t (List.mem_of_mem_eraseIdx h)
    · intro n h
      rcases alive_eq_true_iff.mp h with ⟨e, he, hid⟩ | h
      · exact alive_eq_true_iff.mpr (.inl ⟨e, List.mem_of_mem_eraseIdx he, hid⟩)
      · exact alive_eq_true_iff.mpr (.inr h)
  | elsewhere =>
    exact hs.quiet (fun _ _ _ => Iff.rfl) (fun _ _ _ => Iff.rfl) hs.reference (fun _ h => h)
      (Nat.le_succ _) (.inl rfl)

/-- The invariant holds under every schedule. -/
theorem Sound.steps (hs : s.Sound) (turns : List Turn) : (s.steps turns).Sound :=
  List.foldlRecOn turns Race.step hs fun _ hs turn _ => hs.step turn

/-- So it holds after every schedule from the start. -/
theorem Sound.run (turns : List Turn) : (Race.run turns).Sound :=
  Sound.start.steps turns

/-! ### Racing builders never split a type -/

/-- A caller's next phase keeps what it synthesized and what it settled on. -/
theorem before_advance (hc : s.callers[i]? = some c) : ∃ p, c.phase.Before p ∧
    (s.advance i c).callers = (s.put i c p).callers := by
  unfold advance
  cases hphase : c.phase with
  | asked =>
    cases s.cache.live? s.alive c.key with
    | some t => exact ⟨.settled t none, .of_none rfl rfl, rfl⟩
    | none => exact ⟨.missed, .of_none rfl rfl, rfl⟩
  | missed => exact ⟨.swept, .of_none rfl rfl, rfl⟩
  | swept =>
    cases synthesize s.next c.domain c.interfaces with
    | error e => exact ⟨.returned (.error e) none, .of_none rfl rfl, rfl⟩
    | ok t => exact ⟨.built t, .of_none rfl rfl, rfl⟩
  | built t => exact ⟨.settled _ (some t), .of_built t _, rfl⟩
  | settled t made => exact ⟨.returned (.ok t) made, .of_settled t made, rfl⟩
  | returned r made =>
    refine ⟨c.phase, hphase ▸ .refl _, ?_⟩
    obtain ⟨hi, rfl⟩ := List.getElem?_eq_some_iff.mp hc
    exact (List.set_getElem_self hi).symm

/-- Whatever a caller has that no phase gives up, it has after every turn. -/
theorem has_step (turn : Turn) {f : Phase → Option ProxyType}
    (hf : ∀ p q : Phase, p.Before q → ∀ u, f p = some u → f q = some u) (h : s.Has f i k t) :
    (s.step turn).Has f i k t := by
  cases turn with
  | call d is => exact has_call h
  | advance j =>
    simp only [step]
    split
    next => exact h
    next c hc =>
      obtain ⟨p, hbefore, hput⟩ := before_advance hc
      obtain ⟨c', hc', hk, ht⟩ := has_put hc (hf _ _ hbefore) h
      exact ⟨c', hput ▸ hc', hk, ht⟩
  | clone place =>
    simp only [step]
    split <;> exact h
  | drop place => exact h
  | elsewhere => exact h

/-- It has it after any turns. -/
theorem has_steps (turns : List Turn) {f : Phase → Option ProxyType}
    (hf : ∀ p q : Phase, p.Before q → ∀ u, f p = some u → f q = some u) (h : s.Has f i k t) :
    (s.steps turns).Has f i k t :=
  List.foldlRecOn (motive := fun s : Race => s.Has f i k t) turns step h
    fun _ h turn _ => has_step turn hf h

/-- Who lost the race has lost it for good. -/
theorem Beaten.steps (h : s.Beaten i t) (turns : List Turn) : (s.steps turns).Beaten i t := by
  obtain ⟨k, winner, hmade, hgave, hne⟩ := h
  exact ⟨k, winner, has_steps turns (fun _ _ hb => hb.made) hmade,
    has_steps turns (fun _ _ hb => hb.answer) hgave, hne⟩

/-- Nobody settles on a type whose maker lost the race. -/
theorem Sound.not_gave_of_beaten (hs : s.Sound) (h : s.Beaten i t) (j : Nat) (k : TypeKey) :
    ¬ s.Gave j k t := by
  intro hgave
  obtain ⟨l, winner, hmade, hwinner, hne⟩ := h
  obtain ⟨m, hm, hmm⟩ := hs.winner j k t hgave
  -- The maker of the type would have settled on it, and there is one maker only.
  obtain rfl := hs.distinct i m l k t t hmade hmm rfl
  obtain ⟨c, hc, -, ht⟩ := hm
  obtain ⟨c', hc', -, hw⟩ := hwinner
  rw [hc] at hc'
  cases hc'
  rw [ht] at hw
  exact hne (Option.some.inj hw).symm

/-- What racing builders can rely on. -/
structure Laws (s : Race) : Prop where
  /-- References to types requested under one key are to one type. -/
  one_type : ∀ k t u, (k, t) ∈ s.held → (k, u) ∈ s.held → t = u
  /-- A type in circulation is the live entry of the key that it was requested under. -/
  live : ∀ k t, (k, t) ∈ s.held → s.cache.live? s.alive k = some t
  /-- What a caller synthesized who lost the race is neither returned to anybody nor in circulation,
      now or later. -/
  beaten : ∀ i t, s.Beaten i t → ∀ turns,
    (∀ j, ¬ (s.steps turns).Returned j t) ∧ ∀ k, (k, t) ∉ (s.steps turns).held

/-- Racing builders can rely on it under every schedule. -/
theorem laws_run (turns : List Turn) : (run turns).Laws := by
  have hs := Sound.run turns
  generalize run turns = s at hs
  have hlive : ∀ k t, (k, t) ∈ s.held → s.cache.live? s.alive k = some t := by
    intro k t h
    obtain ⟨i, hi⟩ := hs.reference k t h
    have halive : s.alive t.id = true := alive_eq_true_iff.mpr (.inl ⟨_, h, rfl⟩)
    exact (TypeCache.live?_eq_some_iff ..).mpr ⟨hs.kept i k t hi halive, halive⟩
  refine ⟨?_, hlive, ?_⟩
  · intro k t u ht hu
    have heq := hlive k t ht
    rw [hlive k u hu] at heq
    exact (Option.some.inj heq).symm
  · intro i t h later
    have hnot := (hs.steps later).not_gave_of_beaten (h.steps later)
    constructor
    · rintro j ⟨c, made, hc, hphase⟩
      exact hnot j c.key ⟨c, hc, rfl, by rw [hphase]; rfl⟩
    · intro k hheld
      obtain ⟨j, hj⟩ := (hs.steps later).reference k t hheld
      exact hnot j k hj

end Race

end Interop
