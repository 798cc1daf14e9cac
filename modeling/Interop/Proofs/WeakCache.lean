import Mathlib.Data.List.Nodup
import Interop.Proofs.History

namespace Interop

/-!
# What a weak cache guarantees

Over every run of a process, whatever else happens in it, a caching platform knows exactly the types
that it gave out and that somebody still holds.

* `Counts` — how many things satisfy a predicate.
* `Process.CacheLaws` — the guarantees of one caching platform at one moment.
* `Process.cacheLaws_run` — they hold after every run.

The number of live entries is compared with a number of types, not of references: a type counts once,
however many handles and instances keep it alive. That no two live entries are of one type needs an
argument, since entries are told apart by their keys; a type has only one key, that of what it was
made for, so the live types are as many as their keys.
-/

/-- Exactly `n` things satisfy `p`. -/
def Counts {α : Type} (p : α → Prop) (n : Nat) : Prop :=
  ∃ l : List α, l.Nodup ∧ (∀ a, a ∈ l ↔ p a) ∧ l.length = n

namespace Process

variable {η : Type} {s : Process η} {store : Nat}

/-- A key finds a live type iff the platform gave that type out for the key, and somebody still holds
    it. -/
theorem Sound.live?_eq_some_iff (hs : s.Sound) {k : TypeKey} {t : ProxyType} :
    (s.foundry.cache store).live? s.alive k = some t ↔
      (store, t) ∈ s.returned ∧ s.Holds t ∧ t.key = k := by
  rw [TypeCache.live?_eq_some_iff]
  constructor
  · rintro ⟨hfind, halive⟩
    have hnoted := hs.noted store k t hfind
    obtain ⟨r, hr, hid⟩ := s.alive_eq_true_iff.mp halive
    -- Some type of that number is held; since numbers identify, it is this one.
    have heq := hs.numbered.unique r.target (mem_types.mpr (.inl ⟨r, hr, rfl⟩)) t
      (mem_types.mpr (.inr ⟨store, hnoted⟩)) hid
    exact ⟨hnoted, ⟨r, hr, heq⟩, (hs.caches store).key_of_find? hfind⟩
  · rintro ⟨hnoted, hholds, rfl⟩
    have halive := s.alive_of_holds hholds
    exact ⟨hs.kept store t hnoted halive, halive⟩

/-- The live entries of a cache are as many as the types that the platform gave out and that somebody
    still holds. -/
theorem Sound.counts_live (hs : s.Sound) :
    Counts (fun t => (store, t) ∈ s.returned ∧ s.Holds t)
      ((s.foundry.cache store).liveCount s.alive) := by
  have hc := hs.caches store
  have hpruned := hc.prune s.alive
  refine ⟨((s.foundry.cache store).prune s.alive).entries.map (·.2), ?_, ?_, ?_⟩
  · -- No type occurs twice among the live entries, since its key does not.
    have hkeys : (((s.foundry.cache store).prune s.alive).entries.map (·.2)).map (·.key) =
        ((s.foundry.cache store).prune s.alive).entries.map (·.1) := by
      rw [List.map_map]
      exact List.map_congr_left fun e he => (hpruned.own e he).symm
    exact List.Nodup.of_map _ (hkeys ▸ hpruned.nodup)
  · -- After a prune the entries are what the keys find alive.
    intro t
    rw [List.mem_map]
    constructor
    · rintro ⟨⟨k, t⟩, he, rfl⟩
      have hfind := hpruned.find?_eq_some_iff.mpr he
      rw [hc.find?_prune] at hfind
      obtain ⟨hnoted, hholds, -⟩ := hs.live?_eq_some_iff.mp hfind
      exact ⟨hnoted, hholds⟩
    · rintro ⟨hnoted, hholds⟩
      have hlive := hs.live?_eq_some_iff.mpr ⟨hnoted, hholds, rfl⟩
      rw [← hc.find?_prune] at hlive
      exact ⟨_, TypeCache.mem_of_find? hlive, rfl⟩
  · rw [List.length_map, TypeCache.liveCount, TypeCache.prune, List.countP_eq_length_filter]

/-- What the caching platform of number `store` guarantees in a process. -/
structure CacheLaws (s : Process η) (store : Nat) : Prop where
  /-- There is at most one entry a key. -/
  one_entry : ((s.foundry.cache store).entries.map (·.1)).Nodup
  /-- The type of an entry was made for exactly the domain and the interfaces of its key, and has the
      table of its own interfaces. -/
  own_entry : ∀ k t, (k, t) ∈ (s.foundry.cache store).entries →
    k = ⟨t.domain.id, t.interfaces.map (·.serial)⟩ ∧ DispatchTable.build t.interfaces = .ok t.table
  /-- The live entry of a key is the type that the platform gave out for it and that some reference
      still holds, and there is one whenever there is such a type. -/
  live_iff : ∀ k t, (s.foundry.cache store).live? s.alive k = some t ↔
    (store, t) ∈ s.returned ∧ s.Holds t ∧ t.key = k
  /-- A request for a key with a live type gets that very type. -/
  hit : ∀ d is t, (s.foundry.cache store).live? s.alive (TypeKey.of d is) = some t →
    (s.request (.caching store) d is).1 = .ok t
  /-- Any other request is refused, or gets a type with a number that no type had before. -/
  miss : ∀ d is, (s.foundry.cache store).live? s.alive (TypeKey.of d is) = none →
    (∃ e, (s.request (.caching store) d is).1 = .error e) ∨
      ∃ t, (s.request (.caching store) d is).1 = .ok t ∧ t.id = s.foundry.next ∧
        ∀ u ∈ s.types, u.id < t.id
  /-- As many types are cached as there are types that the platform gave out and that some reference
      still holds. -/
  count : Counts (fun t => (store, t) ∈ s.returned ∧ s.Holds t)
    ((s.foundry.cache store).liveCount s.alive)
  /-- Right after a miss every entry is live. -/
  swept : ∀ d is, (s.foundry.cache store).live? s.alive (TypeKey.of d is) = none →
    ∀ e ∈ ((s.request (.caching store) d is).2.foundry.cache store).entries,
      (s.request (.caching store) d is).2.alive e.2.id = true

/-- A request that misses is refused or gets a new number, and leaves no dead entry behind. -/
theorem Sound.request_miss (hs : s.Sound) {d : Domain} {is : List Interface}
    (h : (s.foundry.cache store).live? s.alive (TypeKey.of d is) = none) :
    ((∃ e, (s.request (.caching store) d is).1 = .error e) ∨
      ∃ t, (s.request (.caching store) d is).1 = .ok t ∧ t.id = s.foundry.next) ∧
    ∀ e ∈ ((s.request (.caching store) d is).2.foundry.cache store).entries,
      (s.request (.caching store) d is).2.alive e.2.id = true := by
  cases hr : synthesize s.foundry.next d is with
  | error e =>
    -- Whether or not the request is refused, the cache was pruned first.
    rw [request_refused h hr]
    refine ⟨.inl ⟨e, rfl⟩, ?_⟩
    intro entry hmem
    exact (TypeCache.mem_prune.mp (Foundry.mem_cache_setCache hmem)).2
  | ok t =>
    rw [hs.request_made h hr]
    refine ⟨.inr ⟨t, rfl, (synthesize_eq_ok hr).1⟩, ?_⟩
    intro entry hmem
    rw [alive_eq_true_iff, accept_refs]
    rcases TypeCache.mem_insert.mp (Foundry.mem_cache_setCache hmem) with rfl | ⟨hmem, -⟩
    · exact ⟨.type t, List.mem_cons_self, rfl⟩
    · -- What was live before the request is live after it.
      obtain ⟨r, hr, hid⟩ := s.alive_eq_true_iff.mp (TypeCache.mem_prune.mp hmem).2
      exact ⟨r, List.mem_cons_of_mem _ hr, hid⟩

/-- A caching platform keeps its guarantees through every run. -/
theorem cacheLaws_run (ms : List (Move η)) (store : Nat) : (run ms).CacheLaws store := by
  have hs := Sound.run ms
  generalize run ms = s at hs
  have hc := hs.caches store
  refine ⟨hc.nodup, ?_, fun k t => hs.live?_eq_some_iff, ?_, ?_, hs.counts_live, ?_⟩
  · intro k t he
    exact ⟨hc.own _ he, (hc.synthesized _ he).build⟩
  · intro d is t h
    rw [request_hit h]
  · intro d is h
    rcases (hs.request_miss h).1 with he | ⟨t, ht, hid⟩
    · exact .inl he
    · refine .inr ⟨t, ht, hid, ?_⟩
      intro u hu
      rw [hid]
      exact hs.numbered.below u hu
  · intro d is h
    exact (hs.request_miss h).2

end Process

end Interop
