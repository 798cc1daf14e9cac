import Interop.Proofs.Chronicle

namespace Interop

/-!
# What a request leaves behind

A caching platform drops the dead entries of its cache before it looks at a list, so a refusal may
come after the cache was changed. No more than that happens, and numbers go to new types only.

* `Process.Intact` — what a refusal leaves as it was.
* `Process.Validated`, `Process.Sound.validated_request` — the three ways a request to a platform that
  validates can go.
* `Process.RequestLaws`, `Process.requestLaws_run` — what requests leave behind after every run, and
  how the types of the run are numbered and named.

A request to a platform that validates can go in three ways, and everything that is said here is read
off this list. In a hit nothing is made. In a refusal the cache has been swept, which takes out what
nobody could find any more: `Intact` compares the two processes by what can be found in the caches,
and leaves only dead entries out of the comparison. Whatever is intact in this sense takes the same
request in the same way, so a refusal is repeated.
-/

/-- Whether the platform checks the lists that it is given. -/
def Platform.validates : Platform → Bool
  | .caching _ | .uncached => true
  | .foreign _ | .defective _ => false

/-- Synthesis succeeds iff the list passes the check and a table can be built. -/
theorem synthesize_succeeds_iff (next : Nat) (d : Domain) (is : List Interface) :
    (∃ t, synthesize next d is = .ok t) ↔
      validate d is = .ok () ∧ ∃ table, DispatchTable.build is = .ok table := by
  unfold synthesize
  cases hv : validate d is with
  | error e => simp
  | ok u =>
    cases hb : DispatchTable.build is with
    | error e => simp
    | ok table => simp

namespace Process

variable {η : Type} {s : Process η} {p : Platform} {d : Domain} {is : List Interface}

/-- The process `s'` is `s` but for dead entries that may have left the caches. -/
structure Intact (s s' : Process η) : Prop where
  live : ∀ store k,
    (s'.foundry.cache store).live? s'.alive k = (s.foundry.cache store).live? s.alive k
  count : ∀ store,
    (s'.foundry.cache store).liveCount s'.alive = (s.foundry.cache store).liveCount s.alive
  added : ∀ store, ∀ e ∈ (s'.foundry.cache store).entries, e ∈ (s.foundry.cache store).entries
  dropped : ∀ store, ∀ e ∈ (s.foundry.cache store).entries,
    e ∉ (s'.foundry.cache store).entries → s.alive e.2.id = false
  next : s'.foundry.next = s.foundry.next
  nextProxy : s'.nextProxy = s.nextProxy
  refs : s'.refs = s.refs
  returned : s'.returned = s.returned

/-- The process after platform `p` dropped the dead entries of its cache, if it has one. -/
def sweep (s : Process η) (p : Platform) : Process η :=
  match p with
  | .caching store =>
    { s with foundry := s.foundry.setCache store ((s.foundry.cache store).prune s.alive) }
  | .uncached | .foreign _ | .defective _ => s

/-- A process is intact as it is. -/
theorem Intact.refl (s : Process η) : s.Intact s :=
  ⟨fun _ _ => rfl, fun _ => rfl, fun _ _ h => h, fun _ _ h hnot => absurd h hnot, rfl, rfl, rfl, rfl⟩

/-- To drop the dead entries of a cache leaves everything else intact. -/
theorem Sound.intact_sweep (hs : s.Sound) (p : Platform) : s.Intact (s.sweep p) := by
  cases p with
  | uncached | foreign | defective => exact .refl s
  | caching store =>
    -- Only the one cache is different, and there each entry was live before iff it is there now.
    have hcache := s.foundry.cache_setCache store ((s.foundry.cache store).prune s.alive)
    refine ⟨fun n k => ?_, fun n => ?_, fun n e he => ?_, fun n e he hnot => ?_, rfl, rfl, rfl, rfl⟩
    · show ((s.foundry.setCache store _).cache n).live? s.alive k = _
      rw [hcache]
      split
      next hn =>
        rw [hn.1]
        exact (hs.caches store).live?_prune k
      next => rfl
    · show ((s.foundry.setCache store _).cache n).liveCount s.alive = _
      rw [hcache]
      split
      next hn =>
        rw [hn.1, TypeCache.liveCount, TypeCache.prune, List.countP_filter]
        simp only [Bool.and_self, TypeCache.liveCount]
      next => rfl
    · have he : e ∈ ((s.foundry.setCache store _).cache n).entries := he
      rw [hcache] at he
      split at he
      next hn =>
        rw [hn.1]
        exact (TypeCache.mem_prune.mp he).1
      next => exact he
    · have hnot : e ∉ ((s.foundry.setCache store _).cache n).entries := hnot
      rw [hcache] at hnot
      split at hnot
      next hn =>
        rw [hn.1] at he
        apply eq_false_of_ne_true
        exact fun halive => hnot (TypeCache.mem_prune.mpr ⟨he, halive⟩)
      next => exact absurd he hnot

/-- What a request to a platform that validates answers, and what it leaves behind. -/
inductive Validated (s : Process η) (p : Platform) (d : Domain) (is : List Interface) :
    Except ConstructionError ProxyType → Process η → Prop
  | hit {t : ProxyType} (live : s.foundry.hits s.alive d is p = true) :
      Validated s p d is (.ok t) (s.accept p (.type t))
  | refused {e : ConstructionError} (miss : s.foundry.hits s.alive d is p = false)
      (failed : synthesize s.foundry.next d is = .error e) :
      Validated s p d is (.error e) (s.sweep p)
  | made {t : ProxyType} {s' : Process η} (miss : s.foundry.hits s.alive d is p = false)
      (built : synthesize s.foundry.next d is = .ok t)
      (next : s'.foundry.next = s.foundry.next + 1) : Validated s p d is (.ok t) s'

/-- A request to a platform that validates goes in one of the listed ways. -/
theorem Sound.validated_request (hs : s.Sound) (hp : p.validates = true) (d : Domain)
    (is : List Interface) :
    s.Validated p d is (s.request p d is).1 (s.request p d is).2 := by
  cases p with
  | foreign | defective => cases hp
  | caching store =>
    cases hl : (s.foundry.cache store).live? s.alive (TypeKey.of d is) with
    | some t =>
      rw [request_hit hl]
      exact .hit (by simp [Foundry.hits, hl])
    | none =>
      have hmiss : s.foundry.hits s.alive d is (.caching store) = false := by
        simp [Foundry.hits, hl]
      cases hr : synthesize s.foundry.next d is with
      | error e =>
        rw [request_refused hl hr]
        exact .refused hmiss hr
      | ok t =>
        rw [hs.request_made hl hr]
        exact .made hmiss hr (by rw [accept_foundry])
  | uncached =>
    cases hr : synthesize s.foundry.next d is with
    | error e =>
      simp only [Process.request, Foundry.proxyType, Foundry.synthesize, hr]
      exact .refused rfl hr
    | ok t =>
      simp only [Process.request, Foundry.proxyType, Foundry.synthesize, hr]
      exact .made rfl hr (by rw [accept_foundry])

/-- Where nothing but dead entries is gone, the same requests hit. -/
theorem Intact.hits {s' : Process η} (h : s.Intact s') (p : Platform) (d : Domain)
    (is : List Interface) :
    s'.foundry.hits s'.alive d is p = s.foundry.hits s.alive d is p := by
  cases p with
  | caching store => simp only [Foundry.hits, h.live]
  | uncached | foreign | defective => rfl

/-- To drop dead entries keeps the process sound. -/
theorem Sound.sweep (hs : s.Sound) (p : Platform) : (s.sweep p).Sound := by
  cases p with
  | caching store => exact hs.refused
  | uncached | foreign | defective => exact hs

/-- A refusal leaves everything intact but dead entries, and is repeated if it is asked for. -/
theorem Sound.refused_again (hs : s.Sound) (hp : p.validates = true) {e : ConstructionError}
    (h : (s.request p d is).1 = .error e) :
    s.Intact (s.request p d is).2 ∧ ((s.request p d is).2.request p d is).1 = .error e := by
  have hfirst := hs.validated_request hp d is
  rw [h] at hfirst
  generalize (s.request p d is).2 = s' at hfirst ⊢
  cases hfirst with
  | refused miss failed =>
    have hintact := hs.intact_sweep p
    have hsecond := (hs.sweep p).validated_request hp d is
    refine ⟨hintact, ?_⟩
    -- The second request finds the same live types and the same list, so it can only be refused.
    rw [← hintact.hits] at miss
    rw [← hintact.next] at failed
    generalize ((s.sweep p).request p d is).1 = answer at hsecond ⊢
    generalize ((s.sweep p).request p d is).2 = s'' at hsecond
    cases hsecond with
    | hit live => cases miss.symm.trans live
    | refused _ failed' => exact failed'.symm.trans failed
    | made _ built => cases failed.symm.trans built

/-- A request takes one number if it misses and synthesis succeeds, and none otherwise. -/
theorem Sound.next_request (hs : s.Sound) (hp : p.validates = true) (d : Domain)
    (is : List Interface) :
    (s.foundry.hits s.alive d is p = false ∧ ∃ t, synthesize s.foundry.next d is = .ok t) ∧
        (s.request p d is).2.foundry.next = s.foundry.next + 1 ∨
      ¬ (s.foundry.hits s.alive d is p = false ∧ ∃ t, synthesize s.foundry.next d is = .ok t) ∧
        (s.request p d is).2.foundry.next = s.foundry.next := by
  have h := hs.validated_request hp d is
  generalize (s.request p d is).1 = answer at h
  generalize (s.request p d is).2 = s' at h ⊢
  cases h with
  | hit live =>
    refine .inr ⟨?_, by rw [accept_foundry]⟩
    -- Each way excludes the others: a hit is no miss, and a refusal has no type.
    rintro ⟨miss, -⟩
    cases miss.symm.trans live
  | refused miss failed =>
    refine .inr ⟨?_, (hs.intact_sweep p).next⟩
    rintro ⟨-, t, built⟩
    cases failed.symm.trans built
  | made miss built next => exact .inl ⟨⟨miss, _, built⟩, next⟩

/-! ### The laws of requests -/

/-- What holds of requests after the moves `ms`, and of the types made in these moves. -/
structure RequestLaws (ms : List (Move η)) : Prop where
  /-- A refusal leaves everything intact but dead entries, and the same request is refused again in
      the same way. -/
  refused : ∀ p d is e, p.validates = true → ((run ms).request p d is).1 = .error e →
    (run ms).Intact ((run ms).request p d is).2 ∧
      (((run ms).request p d is).2.request p d is).1 = .error e
  /-- A hit takes no number and adds no entry. -/
  hit : ∀ store d is t,
    ((run ms).foundry.cache store).live? (run ms).alive (TypeKey.of d is) = some t →
      ((run ms).request (.caching store) d is).2.foundry = (run ms).foundry
  /-- A request takes exactly one number iff it misses, its list passes the check, and a table can be
      built. -/
  taken : ∀ p d is, p.validates = true →
    (((run ms).request p d is).2.foundry.next = (run ms).foundry.next + 1 ↔
      (run ms).foundry.hits (run ms).alive d is p = false ∧ validate d is = .ok () ∧
        ∃ table, DispatchTable.build is = .ok table)
  /-- Otherwise it takes none. -/
  untaken : ∀ p d is, p.validates = true →
    ((run ms).request p d is).2.foundry.next = (run ms).foundry.next ∨
      ((run ms).request p d is).2.foundry.next = (run ms).foundry.next + 1
  /-- The types made so far are numbered from zero in the order in which they were made. -/
  numbers : (chronicle {} ms).map (·.id) = List.range (run ms).foundry.next
  /-- No two of them have one name. -/
  names : ((chronicle {} ms).map (·.name)).Nodup
  /-- They are all the types that are held or that caches have given out. -/
  complete : ∀ t ∈ (run ms).types, t ∈ chronicle {} ms

/-- The laws of requests hold after every run. -/
theorem requestLaws_run (ms : List (Move η)) : RequestLaws ms := by
  have hs := Sound.run ms
  refine ⟨fun p d is e hp h => hs.refused_again hp h, ?_, ?_, ?_, map_id_chronicle ms,
    nodup_map_name_chronicle ms, ?_⟩
  · intro store d is t h
    rw [request_hit h, accept_foundry]
  · intro p d is hp
    rw [← synthesize_succeeds_iff (run ms).foundry.next]
    rcases hs.next_request hp d is with ⟨hmade, hnext⟩ | ⟨hnot, hnext⟩
    · exact iff_of_true hnext hmade
    · exact iff_of_false (by omega) hnot
  · intro p d is hp
    rcases hs.next_request hp d is with ⟨-, hnext⟩ | ⟨-, hnext⟩
    · exact .inr hnext
    · exact .inl hnext
  · intro t ht
    rcases Sound.start.mem_chronicle_of_mem_types ms ht with h | h
    · cases h
    · exact h

end Process

end Interop
