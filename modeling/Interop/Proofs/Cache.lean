import Interop.Proofs.Acceptance
import Interop.Proxy.Platform

namespace Interop

/-!
# Laws of the type cache

The three atomic steps on a cache, and what a request does with them.

* `TypeCache.Sound` — a cache with one entry a key, in which every entry is a synthesized type under
  its own key; pruning and inserting keep it so.
* `TypeCache.find?_prune` — after a prune exactly the live types are found.
* `TypeCache.request_hit`, `TypeCache.request_refused`, `TypeCache.request_made` — the three ways a
  request can go.
* `Foundry.Answer` — what a request on any platform answers and leaves behind, case by case;
  `Foundry.answer_proxyType` shows that there are no others. `Foundry.Answer.synthesized` says that a
  caching platform answers with synthesized types only.

What is alive is a parameter throughout. A cache does not know it, and it may change between any two
steps, so every law is for an arbitrary test of numbers. A request asks the test when it looks its key
up, when it prunes and when it settles on a type. The test stays the same within one request, which is
why a request that misses always settles on what it made.
-/

/-- The key under which a type belongs into a cache: that of the request it was made for. -/
def ProxyType.key (t : ProxyType) : TypeKey :=
  TypeKey.of t.domain t.interfaces

/-- A type made for a request has the request's key. -/
theorem key_of_synthesize {next : Nat} {d : Domain} {is : List Interface} {t : ProxyType}
    (h : synthesize next d is = .ok t) : t.key = TypeKey.of d is := by
  obtain ⟨-, hd, hi, -⟩ := synthesize_eq_ok h
  rw [ProxyType.key, hd, hi]

namespace TypeCache

variable {alive : Nat → Bool} {c : TypeCache}

/-- One entry a key, and every entry a synthesized type under its own key. -/
structure Sound (c : TypeCache) : Prop where
  nodup : (c.entries.map (·.1)).Nodup
  own : ∀ e ∈ c.entries, e.1 = e.2.key
  synthesized : ∀ e ∈ c.entries, e.2.Synthesized

/-- What is found under a key is an entry. -/
theorem mem_of_find? {k : TypeKey} {t : ProxyType} (h : c.find? k = some t) : (k, t) ∈ c.entries :=
  mem_of_lookup h

/-- In a sound cache an entry is what its key finds. -/
theorem Sound.find?_eq_some_iff (hc : c.Sound) {k : TypeKey} {t : ProxyType} :
    c.find? k = some t ↔ (k, t) ∈ c.entries :=
  ⟨mem_of_find?, lookup_of_mem hc.nodup⟩

/-- In a sound cache a type is found under no key but its own. -/
theorem Sound.key_of_find? (hc : c.Sound) {k : TypeKey} {t : ProxyType} (h : c.find? k = some t) :
    t.key = k :=
  (hc.own _ (mem_of_find? h)).symm

/-! ### The empty cache, pruning and inserting -/

/-- The empty cache is sound. -/
theorem Sound.empty : ({} : TypeCache).Sound :=
  ⟨by simp, by simp, by simp⟩

/-- A prune keeps exactly the live entries. -/
theorem mem_prune {e : TypeKey × ProxyType} :
    e ∈ (c.prune alive).entries ↔ e ∈ c.entries ∧ alive e.2.id = true :=
  List.mem_filter

/-- A part of a sound cache is sound. -/
theorem Sound.prune (hc : c.Sound) (alive : Nat → Bool) : (c.prune alive).Sound where
  -- A part of a list without repetitions has none.
  nodup := (List.filter_sublist.map _).nodup hc.nodup
  own e he := hc.own e (mem_prune.mp he).1
  synthesized e he := hc.synthesized e (mem_prune.mp he).1

/-- After a prune exactly the live types are found. -/
theorem Sound.find?_prune (hc : c.Sound) (k : TypeKey) :
    (c.prune alive).find? k = c.live? alive k := by
  ext t
  rw [(hc.prune alive).find?_eq_some_iff, mem_prune, live?_eq_some_iff, hc.find?_eq_some_iff]

/-- A prune changes nothing about which types are live. -/
theorem Sound.live?_prune (hc : c.Sound) (k : TypeKey) :
    (c.prune alive).live? alive k = c.live? alive k := by
  ext t
  rw [live?_eq_some_iff, hc.find?_prune, live?_eq_some_iff, and_assoc, and_self]

/-- An entry of a cache in which a type was put under a key is that type, or an entry of another key
    from before. -/
theorem mem_insert {k : TypeKey} {t : ProxyType} {e : TypeKey × ProxyType} :
    e ∈ (c.insert k t).entries ↔ e = (k, t) ∨ e ∈ c.entries ∧ e.1 ≠ k := by
  simp [insert, List.mem_filter]

/-- A synthesized type may be put under its own key. -/
theorem Sound.insert (hc : c.Sound) {k : TypeKey} {t : ProxyType} (ht : t.Synthesized)
    (hk : t.key = k) : (c.insert k t).Sound where
  nodup := by
    show ((k, t).1 :: (c.entries.filter (·.1 != k)).map (·.1)).Nodup
    rw [List.nodup_cons]
    refine ⟨?_, (List.filter_sublist.map _).nodup hc.nodup⟩
    rw [List.mem_map]
    rintro ⟨e, he, hek⟩
    -- No entry of the key was left over.
    have := (List.mem_filter.mp he).2
    simp [hek] at this
  own e he := by
    rcases mem_insert.mp he with rfl | ⟨he, -⟩
    · exact hk.symm
    · exact hc.own e he
  synthesized e he := by
    rcases mem_insert.mp he with rfl | ⟨he, -⟩
    · exact ht
    · exact hc.synthesized e he

/-! ### Requests -/

variable {next : Nat} {d : Domain} {is : List Interface}

/-- A live type under the key is the answer, and nothing changes. -/
theorem request_hit {t : ProxyType} (h : c.live? alive (TypeKey.of d is) = some t) :
    c.request alive next d is = ⟨.ok t, next, c, [.hit t.name]⟩ := by
  simp only [request, h]

/-- A miss that synthesis refuses drops the dead entries and no more. -/
theorem request_refused {e : ConstructionError} (h : c.live? alive (TypeKey.of d is) = none)
    (hs : synthesize next d is = .error e) :
    c.request alive next d is = ⟨.error e, next, c.prune alive, c.pruneNotes alive⟩ := by
  simp only [request, h, hs]

/-- A miss that synthesis accepts drops the dead entries and puts the new type under its key. -/
theorem Sound.request_made (hc : c.Sound) {t : ProxyType}
    (h : c.live? alive (TypeKey.of d is) = none) (hs : synthesize next d is = .ok t) :
    c.request alive next d is =
      ⟨.ok t, next + 1, (c.prune alive).insert (TypeKey.of d is) t,
        c.pruneNotes alive ++ [.synthesized t]⟩ := by
  -- What was missed before the prune is missed after it, so no live type wins against the new one.
  have hl : (c.prune alive).live? alive (TypeKey.of d is) = none := by rw [hc.live?_prune, h]
  simp only [request, h, hs, adopt, hl]

end TypeCache

/-! ### Requests on any platform -/

namespace Foundry

variable {f : Foundry} {alive : Nat → Bool} {d : Domain} {is : List Interface}

/-- The foundry after the cache of that number was replaced. -/
def setCache (f : Foundry) (store : Nat) (c : TypeCache) : Foundry :=
  { f with caches := f.caches.set store c }

/-- Replacing a cache that there is changes that cache and no other. -/
theorem cache_setCache (f : Foundry) (store : Nat) (c : TypeCache) (n : Nat) :
    (f.setCache store c).cache n =
      if n = store ∧ store < f.caches.length then c else f.cache n := by
  simp only [cache, setCache, List.getD_eq_getElem?_getD, List.getElem?_set]
  -- A number without a cache has the empty one, and to replace that does nothing.
  by_cases hn : n = store
  · subst hn
    by_cases hl : n < f.caches.length
    · simp [hl]
    · simp [hl]
  · simp [hn, Ne.symm hn]

/-- Where a cache was replaced there are no entries but those of the new one. -/
theorem mem_cache_setCache {f : Foundry} {store : Nat} {c : TypeCache} {e : TypeKey × ProxyType}
    (h : e ∈ ((f.setCache store c).cache store).entries) : e ∈ c.entries := by
  rw [cache_setCache] at h
  by_cases hl : store < f.caches.length
  · rwa [if_pos ⟨rfl, hl⟩] at h
  · rw [if_neg fun hn => hl hn.2] at h
    have hempty : f.cache store = {} := by
      rw [cache, List.getD_eq_getElem?_getD, List.getElem?_eq_none (by omega)]
      rfl
    simp [hempty] at h

/-- To replace a cache by itself is to do nothing. -/
theorem setCache_cache (store : Nat) : f.setCache store (f.cache store) = f := by
  have : f.caches.set store (f.cache store) = f.caches := by
    by_cases h : store < f.caches.length
    · have hg : f.cache store = f.caches[store] := by simp [cache, h]
      rw [hg, List.set_getElem_self]
    · exact List.set_eq_of_length_le (by omega)
  rw [setCache, this]

/-- A new cache is empty, and so was the cache of its number before. -/
theorem cache_addCache (n : Nat) : f.addCache.2.cache n = f.cache n := by
  simp only [cache, addCache, List.getD_eq_getElem?_getD]
  by_cases h : n < f.caches.length
  · rw [List.getElem?_append_left h]
  · have hn : f.caches[n]? = none := List.getElem?_eq_none (by omega)
    rw [List.getElem?_append_right (by omega), hn]
    cases n - f.caches.length <;> rfl

/-- What a request for `is` in `d` answers on a platform, and what it leaves behind. -/
inductive Answer (f : Foundry) (alive : Nat → Bool) (d : Domain) (is : List Interface) :
    Platform → Except ConstructionError ProxyType → Foundry → Prop
  /-- The key has a live type. -/
  | hit {store : Nat} {t : ProxyType}
      (live : (f.cache store).live? alive (TypeKey.of d is) = some t) :
      Answer f alive d is (.caching store) (.ok t) f
  /-- The key has none, and the list is refused. -/
  | refused {store : Nat} {e : ConstructionError}
      (miss : (f.cache store).live? alive (TypeKey.of d is) = none)
      (failed : Interop.synthesize f.next d is = .error e) :
      Answer f alive d is (.caching store) (.error e)
        (f.setCache store ((f.cache store).prune alive))
  /-- The key has none, and gets a new type. -/
  | made {store : Nat} {t : ProxyType}
      (miss : (f.cache store).live? alive (TypeKey.of d is) = none)
      (built : Interop.synthesize f.next d is = .ok t) :
      Answer f alive d is (.caching store) (.ok t)
        { f.setCache store (((f.cache store).prune alive).insert (TypeKey.of d is) t) with
          next := f.next + 1 }
  /-- A platform without a cache refuses the list. -/
  | uncachedRefused {p : Platform} {e : ConstructionError} (uncached : ∀ store, p ≠ .caching store) :
      Answer f alive d is p (.error e) f
  /-- A platform without a cache makes a new type. -/
  | uncachedMade {p : Platform} {t : ProxyType} (uncached : ∀ store, p ≠ .caching store)
      (number : t.id = f.next) (domain : t.domain = d) (interfaces : t.interfaces = is) :
      Answer f alive d is p (.ok t) { f with next := f.next + 1 }

/-- A platform that only builds tables answers as one without a cache. -/
theorem answer_defineUnchecked {p : Platform} (hp : ∀ store, p ≠ .caching store)
    (constructor : Option Constructor) :
    f.Answer alive d is p (f.defineUnchecked d is constructor).1
      (f.defineUnchecked d is constructor).2 := by
  unfold defineUnchecked
  split
  · exact .uncachedRefused hp
  · exact .uncachedMade hp rfl rfl rfl

/-- A request answers in one of the listed ways, on whatever platform. -/
theorem answer_proxyType (hf : ∀ store, (f.cache store).Sound) (alive : Nat → Bool) (p : Platform)
    (d : Domain) (is : List Interface) :
    f.Answer alive d is p (f.proxyType alive p d is).1 (f.proxyType alive p d is).2.2 := by
  cases p with
  | caching store =>
    -- A request first asks whether the key has a live type, and only then whether synthesis succeeds.
    cases hl : (f.cache store).live? alive (TypeKey.of d is) with
    | some t =>
      have hr : (f.cache store).request alive f.next d is = _ := TypeCache.request_hit hl
      have hf' : (⟨f.next, f.caches.set store (f.cache store)⟩ : Foundry) = f := setCache_cache store
      simp only [proxyType, hr, hf']
      exact .hit hl
    | none =>
      cases hs : Interop.synthesize f.next d is with
      | error e =>
        simp only [proxyType, TypeCache.request_refused hl hs]
        exact .refused hl hs
      | ok t =>
        simp only [proxyType, (hf store).request_made hl hs]
        exact .made hl hs
  | uncached =>
    have hp : ∀ store, Platform.uncached ≠ .caching store := by simp
    simp only [proxyType, synthesize]
    split
    · exact .uncachedRefused hp
    next t hs =>
      obtain ⟨hid, hd, hi, -⟩ := synthesize_eq_ok hs
      exact .uncachedMade hp hid hd hi
  | foreign constructor => exact answer_defineUnchecked (by simp) constructor
  | defective defect => exact answer_defineUnchecked (by simp) (some {})

/-- What a caching platform answers with is synthesized, be it found or made. -/
theorem Answer.synthesized (hf : ∀ store, (f.cache store).Sound) {store : Nat} {t : ProxyType}
    {f' : Foundry} (h : f.Answer alive d is (.caching store) (.ok t) f') : t.Synthesized := by
  cases h with
  | hit live =>
    have hfind := ((TypeCache.live?_eq_some_iff ..).mp live).1
    exact (hf store).synthesized _ (TypeCache.mem_of_find? hfind)
  | made miss built => exact (synthesize_eq_ok built).2.2.2
  | uncachedMade uncached => exact absurd rfl (uncached store)

end Foundry

end Interop
