import Interop.Proofs.Effect
import Interop.Proofs.Numbering

namespace Interop

/-!
# The history of a process

Cache entries are weak, so which of them count changes with every reference that is handed on or
dropped. The invariant that carries all statements about caches over whole runs is
`Process.Sound`: a type that a caching platform gave out stays the live entry of its key for as long
as anybody holds it.

* `Process.Sound.step` — every move keeps the invariant; the cases are those of `Process.Effect`.
* `Process.Sound.run` — hence it holds after every run.
* `Process.request_hit`, `Process.request_refused`, `Process.Sound.request_made` — a request on a
  caching platform as a function of what its key finds.
* `Process.asked_of_returned` — whatever was given out was asked for.

A cache by itself says little, since an entry counts only as long as its type is alive, and what is
alive is for the process to say. The invariant ties the two together from both sides: whatever is in a
cache was given out, and whatever was given out and is alive is in the cache. It survives a dropped
reference, since less is alive then, and a new one, since what is handed on is alive already or has a
number that no known type has. The last is why numbers belong to the invariant. Without them a type
whose last reference went could come to life again in a cache, by way of another type of the same
number.
-/

namespace Process

variable {η : Type} {s : Process η}

/-- The types that are held or were given out by a caching platform. -/
def types (s : Process η) : List ProxyType :=
  s.refs.map Ref.target ++ s.returned.map (·.2)

/-- A type is known if somebody holds it, or if it was given out once. -/
theorem mem_types {t : ProxyType} :
    t ∈ s.types ↔ s.Holds t ∨ ∃ store, (store, t) ∈ s.returned := by
  simp [types, Holds]

/-- To hand on a reference makes at most its own type known. -/
theorem mem_types_hold {r : Ref η} {t : ProxyType} :
    t ∈ (s.hold r).types ↔ t = r.target ∨ t ∈ s.types := by
  simp [types]

/-- So does an answer of a platform, whether the platform is one that takes notes or not. -/
theorem mem_types_accept {p : Platform} {r : Ref η} {t : ProxyType} :
    t ∈ (s.accept p r).types ↔ t = r.target ∨ t ∈ s.types := by
  cases p with
  | caching store =>
    -- The new type is known twice over, as a reference and by the note that is taken of it.
    simp only [accept, types, hold_refs, List.map_cons, List.mem_append, List.mem_cons]
    constructor
    · rintro ((h | h) | h | h)
      · exact .inl h
      · exact .inr (.inl h)
      · exact .inl h
      · exact .inr (.inr h)
    · rintro (h | h | h)
      · exact .inl (.inl h)
      · exact .inl (.inr h)
      · exact .inr (.inr h)
  | uncached => exact mem_types_hold
  | foreign constructor => exact mem_types_hold
  | defective defect => exact mem_types_hold

/-- The invariant of a process. -/
structure Sound (s : Process η) : Prop where
  /-- Every cache is sound. -/
  caches : ∀ store, (s.foundry.cache store).Sound
  /-- Every type has a number of its own from the counter. -/
  numbered : Numbered ProxyType.id s.foundry.next s.types
  /-- A platform has given out every type in its cache. -/
  noted : ∀ store k t, (s.foundry.cache store).find? k = some t → (store, t) ∈ s.returned
  /-- A type that a platform gave out is in its cache for as long as it is alive. -/
  kept : ∀ store t, (store, t) ∈ s.returned → s.alive t.id = true →
    (s.foundry.cache store).find? t.key = some t

/-! ### What keeps the invariant

First the moves that leave the caches alone. They may drop references and hand on those to held types,
or bring a type into circulation that no cache knows.
-/

/-- At the start there is nothing to be kept. -/
theorem Sound.start : ({} : Process η).Sound := by
  have hcache : ∀ store, (Foundry.cache { caches := [{}] } store) = {} := by
    intro store
    cases store <;> rfl
  refine ⟨?_, .nil, ?_, by simp⟩
  · intro store
    rw [hcache]
    exact TypeCache.Sound.empty
  · intro store k t h
    rw [hcache] at h
    simp [TypeCache.find?] at h

/-- A process whose caches are as they were, and that knows no type it did not know before. -/
theorem Sound.of_subset (hs : s.Sound) {s' : Process η}
    (hcache : ∀ store, s'.foundry.cache store = s.foundry.cache store)
    (hnext : s.foundry.next ≤ s'.foundry.next) (hret : s'.returned = s.returned)
    (hrefs : ∀ r ∈ s'.refs, s.Holds r.target) : s'.Sound := by
  have htypes : ∀ t ∈ s'.types, t ∈ s.types := by
    intro t ht
    rcases mem_types.mp ht with ⟨r, hr, rfl⟩ | ⟨store, h⟩
    · exact mem_types.mpr (.inl (hrefs r hr))
    · exact mem_types.mpr (.inr ⟨store, hret ▸ h⟩)
  refine ⟨fun store => hcache store ▸ hs.caches store, hs.numbered.of_subset htypes hnext, ?_, ?_⟩
  · intro store k t h
    rw [hcache] at h
    rw [hret]
    exact hs.noted store k t h
  · intro store t h ha
    rw [hret] at h
    rw [hcache]
    obtain ⟨r, hr, hid⟩ := s'.alive_eq_true_iff.mp ha
    -- Whatever is alive now was held before, so it was alive then.
    obtain ⟨q, hq, hqr⟩ := hrefs r hr
    exact hs.kept store t h (s.alive_eq_true_iff.mpr ⟨q, hq, by rw [hqr, hid]⟩)

/-- To hand on a reference to a type that is held already changes nothing. -/
theorem Sound.hold (hs : s.Sound) {r : Ref η} (h : s.Holds r.target) : (s.hold r).Sound := by
  refine hs.of_subset (fun _ => rfl) (Nat.le_refl _) rfl ?_
  intro q hq
  rcases List.mem_cons.mp hq with rfl | hq
  · exact h
  · exact ⟨q, hq, rfl⟩

/-- A reference to a type that takes the next number keeps no type alive that was given out. -/
theorem Sound.alive_of_new (hs : s.Sound) {r : Ref η} (hid : r.target.id = s.foundry.next)
    {store : Nat} {t : ProxyType} (ht : (store, t) ∈ s.returned)
    (h : (s.hold r).alive t.id = true) : s.alive t.id = true := by
  have hlt := hs.numbered.below t (mem_types.mpr (.inr ⟨store, ht⟩))
  obtain ⟨q, hq, hqt⟩ := alive_eq_true_iff _ |>.mp h
  -- The new reference is to another number than that of `t`.
  rcases List.mem_cons.mp hq with rfl | hq
  · omega
  · exact s.alive_eq_true_iff.mpr ⟨q, hq, hqt⟩

/-- A platform without a cache, or the host itself, makes a type. -/
theorem Sound.hold_new (hs : s.Sound) {r : Ref η} (hid : r.target.id = s.foundry.next) :
    Sound { s.hold r with foundry := { s.foundry with next := s.foundry.next + 1 } } := by
  refine ⟨hs.caches, hs.numbered.grow hid fun t => mem_types_hold.mp, hs.noted, ?_⟩
  intro store t h ha
  exact hs.kept store t h (hs.alive_of_new hid h ha)

/-! ### Requests

On a caching platform a request is one of three things: a hit, which hands on what is there; a refused
miss, which prunes; and a miss that makes a type. The last two replace the cache, and `Sound.replace`
says what the new cache has to be like.
-/

variable {store : Nat} {d : Domain} {is : List Interface}

/-- A hit gives out a type that is alive already. -/
theorem Sound.hit (hs : s.Sound) {r : Ref η}
    (h : (s.foundry.cache store).live? s.alive (TypeKey.of d is) = some r.target) :
    (s.accept (.caching store) r).Sound := by
  obtain ⟨hfind, halive⟩ := (TypeCache.live?_eq_some_iff ..).mp h
  have hkey := (hs.caches store).key_of_find? hfind
  have hnoted := hs.noted store _ _ hfind
  -- The type is held: somebody holds a type of its number, and numbers identify.
  have hholds : s.Holds r.target := by
    obtain ⟨q, hq, hid⟩ := s.alive_eq_true_iff.mp halive
    have heq := hs.numbered.unique q.target (mem_types.mpr (.inl ⟨q, hq, rfl⟩)) r.target
      (mem_types.mpr (.inr ⟨store, hnoted⟩)) hid
    exact ⟨q, hq, heq⟩
  have htypes : ∀ t ∈ (s.accept (.caching store) r).types, t ∈ s.types := by
    intro t ht
    rcases mem_types_accept.mp ht with rfl | ht
    · exact mem_types.mpr (.inl hholds)
    · exact ht
  refine ⟨hs.caches, hs.numbered.of_subset htypes (Nat.le_refl _), ?_, ?_⟩
  · intro n k t hn
    exact List.mem_cons_of_mem _ (hs.noted n k t hn)
  · intro n t hn ha
    rcases List.mem_cons.mp hn with heq | hn
    · cases heq
      rw [accept_foundry, hkey]
      exact hfind
    · exact (hs.hold hholds).kept n t hn ha

/-- One cache is replaced by `c`. Every type in `c` was given out, every type that was given out and
    is alive is in `c`, and so is what is given out now. -/
theorem Sound.replace (hs : s.Sound) {s' : Process η} {c : TypeCache} (hc : c.Sound)
    (hcache : ∀ n, s'.foundry.cache n =
      if n = store ∧ store < s.foundry.caches.length then c else s.foundry.cache n)
    (hnumbered : Numbered ProxyType.id s'.foundry.next s'.types)
    (hold : ∀ n t, (n, t) ∈ s.returned → (n, t) ∈ s'.returned)
    (hnew : ∀ n t, (n, t) ∈ s'.returned →
      (n, t) ∈ s.returned ∨ s'.foundry.cache n = c ∧ c.find? t.key = some t)
    (hnoted : ∀ k t, c.find? k = some t → (store, t) ∈ s'.returned)
    (halive : ∀ n t, (n, t) ∈ s.returned → s'.alive t.id = true → s.alive t.id = true)
    (hlive : ∀ t, (store, t) ∈ s.returned → s.alive t.id = true → c.find? t.key = some t) :
    s'.Sound := by
  refine ⟨?_, hnumbered, ?_, ?_⟩
  · intro n
    rw [hcache]
    split
    · exact hc
    · exact hs.caches n
  · intro n k t h
    rw [hcache] at h
    split at h
    next hn => exact hn.1 ▸ hnoted k t h
    next => exact hold n t (hs.noted n k t h)
  · intro n t h ha
    -- A type that was given out before was alive before; one that is given out now is in `c`.
    rcases hnew n t h with h | ⟨hn, hfind⟩
    · have ha := halive n t h ha
      rw [hcache]
      split
      next hn => exact hlive t (hn.1 ▸ h) ha
      next => exact hs.kept n t h ha
    · rw [hn]
      exact hfind

/-- A refused miss drops entries that count no more. -/
theorem Sound.refused (hs : s.Sound) :
    Sound { s with
      foundry := s.foundry.setCache store ((s.foundry.cache store).prune s.alive) } := by
  have hfind : ∀ k, ((s.foundry.cache store).prune s.alive).find? k =
      (s.foundry.cache store).live? s.alive k := (hs.caches store).find?_prune
  -- A prune leaves what was found alive, and of what was given out it takes nothing that is alive.
  refine hs.replace ((hs.caches store).prune s.alive) (s.foundry.cache_setCache store _)
    hs.numbered (fun _ _ h => h) (fun _ _ h => .inl h) ?_ (fun _ _ _ h => h) ?_
  · intro k t h
    rw [hfind, TypeCache.live?_eq_some_iff] at h
    exact hs.noted store k t h.1
  · intro t h ha
    rw [hfind, TypeCache.live?_eq_some_iff]
    exact ⟨hs.kept store t h ha, ha⟩

/-- A miss that is not refused gives out a new type. -/
theorem Sound.made (hs : s.Sound) (hstore : store < s.foundry.caches.length) {r : Ref η}
    (hmiss : (s.foundry.cache store).live? s.alive (TypeKey.of d is) = none)
    (hbuilt : synthesize s.foundry.next d is = .ok r.target) :
    Sound (accept { s with
      foundry := { s.foundry.setCache store
          (((s.foundry.cache store).prune s.alive).insert (TypeKey.of d is) r.target) with
        next := s.foundry.next + 1 } } (.caching store) r) := by
  obtain ⟨hid, -, -, hsyn⟩ := synthesize_eq_ok hbuilt
  have hkey := key_of_synthesize hbuilt
  have hcache := s.foundry.cache_setCache store
    (((s.foundry.cache store).prune s.alive).insert (TypeKey.of d is) r.target)
  refine hs.replace (((hs.caches store).prune s.alive).insert hsyn hkey) hcache
    (hs.numbered.grow hid fun t => (mem_types_accept (p := .caching store)).mp)
    (fun _ _ h => List.mem_cons_of_mem _ h) ?_ ?_ (fun _ _ h ha => hs.alive_of_new hid h ha) ?_
  · intro n t h
    rcases List.mem_cons.mp h with heq | h
    · cases heq
      refine .inr ⟨(hcache store).trans (if_pos ⟨rfl, hstore⟩), ?_⟩
      rw [hkey]
      exact TypeCache.find?_insert_self ..
    · exact .inl h
  · intro k t h
    rcases TypeCache.mem_insert.mp (TypeCache.mem_of_find? h) with heq | ⟨hmem, -⟩
    · cases heq
      exact List.mem_cons_self
    · have hfind := (hs.caches store).find?_eq_some_iff.mpr (TypeCache.mem_prune.mp hmem).1
      exact List.mem_cons_of_mem _ (hs.noted store k t hfind)
  · intro t h ha
    have hlive := (TypeCache.live?_eq_some_iff ..).mpr ⟨hs.kept store t h ha, ha⟩
    -- The key that was missed is not that of a live type.
    have hne : t.key ≠ TypeKey.of d is := by
      intro heq
      rw [heq, hmiss] at hlive
      cases hlive
    rw [TypeCache.find?_insert_of_ne _ hne, (hs.caches store).find?_prune]
    exact hlive

/-- To ask a platform that was set up keeps the invariant, whatever the caller makes of the answer. -/
theorem Sound.served (hs : s.Sound) {p : Platform} (hp : s.knows p = true) {s' : Process η}
    (h : s.Served p d is s') : s'.Sound := by
  cases h with
  | refused answer =>
    cases answer with
    | refused miss failed => exact hs.refused
    | uncachedRefused uncached => exact hs
  | given answer =>
    cases answer with
    | hit live => exact hs.hit live
    | made miss built => exact hs.made (by simpa [knows] using hp) miss built
    | uncachedMade uncached number domain interfaces =>
      cases p with
      | caching store => exact absurd rfl (uncached store)
      | uncached => exact hs.hold_new number
      | foreign constructor => exact hs.hold_new number
      | defective defect => exact hs.hold_new number
  | dropped answer uncached =>
    cases answer with
    | hit live => exact absurd rfl (uncached _)
    | made miss built => exact absurd rfl (uncached _)
    | uncachedMade _ number domain interfaces =>
      exact hs.of_subset (fun _ => rfl) (Nat.le_succ _) rfl fun r hr => ⟨r, hr, rfl⟩

/-! ### Runs -/

/-- Every move keeps the invariant. -/
theorem Sound.step (hs : s.Sound) (m : Move η) : (s.step m).Sound := by
  have he := effect_step hs.caches m
  -- The move itself is of no interest any more, only what it made of the process.
  generalize s.step m = s' at he ⊢
  cases he with
  | frame cache next returned refs => exact hs.of_subset cache (Nat.le_of_eq next.symm) returned refs
  | defined number => exact hs.hold_new number
  | served known asks h => exact hs.served known h

/-- The invariant holds after every run. -/
theorem Sound.run (ms : List (Move η)) : (Process.run ms).Sound :=
  List.foldlRecOn ms Process.step Sound.start fun _ hs m _ => hs.step m

/-! ### Requests on a caching platform -/

/-- A request for a key with a live type gets that type, and changes nothing but who holds it. -/
theorem request_hit {t : ProxyType}
    (h : (s.foundry.cache store).live? s.alive (TypeKey.of d is) = some t) :
    s.request (.caching store) d is = (.ok t, s.accept (.caching store) (.type t)) := by
  have hf : (⟨s.foundry.next, s.foundry.caches.set store (s.foundry.cache store)⟩ : Foundry) =
      s.foundry := Foundry.setCache_cache store
  simp only [Process.request, Foundry.proxyType, TypeCache.request_hit h, hf]

/-- A request that misses and is refused drops the dead entries. -/
theorem request_refused {e : ConstructionError}
    (h : (s.foundry.cache store).live? s.alive (TypeKey.of d is) = none)
    (he : synthesize s.foundry.next d is = .error e) :
    s.request (.caching store) d is = (.error e,
      { s with foundry := s.foundry.setCache store ((s.foundry.cache store).prune s.alive) }) := by
  simp only [Process.request, Foundry.proxyType, TypeCache.request_refused h he]
  rfl

/-- A request that misses and is accepted drops the dead entries and makes a type for its key. -/
theorem Sound.request_made (hs : s.Sound) {t : ProxyType}
    (h : (s.foundry.cache store).live? s.alive (TypeKey.of d is) = none)
    (ht : synthesize s.foundry.next d is = .ok t) :
    s.request (.caching store) d is = (.ok t, accept { s with
      foundry := { s.foundry.setCache store
          (((s.foundry.cache store).prune s.alive).insert (TypeKey.of d is) t) with
        next := s.foundry.next + 1 } } (.caching store) (.type t)) := by
  simp only [Process.request, Foundry.proxyType, (hs.caches store).request_made h ht]
  rfl

/-! ### What was asked for

A type that was given out has the domain and the interfaces of some request: of the one that it was
made for, whichever request it was given to later.
-/

/-- A move gives out only what was given out before and what it asks for. -/
theorem Sound.returned_step (hs : s.Sound) (m : Move η) {t : ProxyType}
    (h : (store, t) ∈ (s.step m).returned) :
    (store, t) ∈ s.returned ∨ (t.domain, t.interfaces) ∈ m.asks := by
  have he := effect_step hs.caches m
  generalize s.step m = s' at h he
  cases he with
  | frame cache next returned refs =>
    rw [returned] at h
    exact .inl h
  | defined number => exact .inl h
  | served known asks hserved =>
    cases hserved with
    | refused answer => exact .inl h
    | dropped answer uncached => exact .inl h
    | given answer =>
      rcases (mem_returned_accept _).mp h with ⟨rfl, rfl⟩ | h
      · cases answer with
        | hit live => exact .inl (hs.noted store _ _ ((TypeCache.live?_eq_some_iff ..).mp live).1)
        | made miss built =>
          obtain ⟨-, hd, hi, -⟩ := synthesize_eq_ok built
          exact .inr (by rw [hd, hi]; exact asks)
        | uncachedMade uncached => exact absurd rfl (uncached store)
      · exact .inl h

/-- Moves give out only what was given out before and what they ask for. -/
theorem Sound.returned_steps (hs : s.Sound) (ms : List (Move η)) {t : ProxyType}
    (h : (store, t) ∈ (s.steps ms).returned) :
    (store, t) ∈ s.returned ∨ (t.domain, t.interfaces) ∈ ms.flatMap Move.asks := by
  induction ms generalizing s with
  | nil => exact .inl h
  | cons m ms ih =>
    rw [List.flatMap_cons, List.mem_append]
    rcases ih (hs.step m) h with h | h
    · rcases hs.returned_step m h with h | h
      · exact .inl h
      · exact .inr (.inl h)
    · exact .inr (.inr h)

/-- Whatever a run gave out was asked for. -/
theorem asked_of_returned (ms : List (Move η)) {t : ProxyType}
    (h : (store, t) ∈ (Process.run ms).returned) :
    (t.domain, t.interfaces) ∈ ms.flatMap Move.asks := by
  rcases Sound.start.returned_steps ms h with h | h
  · cases h
  · exact h

end Process

end Interop
