import Interop.Proofs.History
import Std.Data.String.ToNat

namespace Interop

/-!
# The types that a process makes

Every type in a process was made by some platform or by the host itself, and took the next number when
it was made. Whether a request makes a type depends on what the caches hold and on who holds what.

* `Foundry.hits`, `Foundry.made` — whether a platform finds its answer in a cache, and the type that it
  makes otherwise.
* `Process.made`, `Process.chronicle` — the types that are made in a move and in a run, in order.
* `Continues` — a list of types takes the numbers of a counter one after the other.
* `Process.map_id_chronicle`, `Process.nodup_map_name_chronicle` — the types of a run are numbered from
  zero without a gap, so no two have one name.
* `Process.mem_chronicle_of_mem_types` — no other types come up in a run.

Every type has a number, and to say that numbers are given out without a gap one has to say which
types there are: those that are not found in a cache. `Foundry.made` names them for one request, and
the chronicle collects them over a run. That the list of their numbers goes on where the counter stood
is a relation between a counter before, a list, and a counter after; it composes, so it need only be
shown for one request. Conversely no type is in circulation that the chronicle does not know, since a
hit gives out what was made before, and everything else is made on the spot.
-/

namespace Foundry

variable (f : Foundry) (alive : Nat → Bool) (d : Domain) (is : List Interface)

/-- Whether a platform finds its answer in a cache. -/
def hits : Platform → Bool
  | .caching store => ((f.cache store).live? alive (TypeKey.of d is)).isSome
  | .uncached | .foreign _ | .defective _ => false

/-- The type that a platform makes in order to answer, if it makes one. -/
def made (p : Platform) : List ProxyType :=
  if f.hits alive d is p then [] else (f.proxyType alive p d is).1.toOption.toList

end Foundry

namespace Process

variable {η : Type}

/-- The types that are made in a move. -/
def made (s : Process η) : Move η → List ProxyType
  | .request p d is => if s.knows p then s.foundry.made s.alive d is p else []
  | .handle p o =>
    if s.knows p then o.asks.flatMap fun q => s.foundry.made s.alive q.1 q.2 p else []
  | .define d is table constructor => [(s.foundry.define d is table constructor).1]
  | .platform | .clone _ | .share _ | .drop _ | .instantiate .. | .attach .. => []

/-- The types that are made in moves, in the order in which they are made. -/
def chronicle (s : Process η) : List (Move η) → List ProxyType
  | [] => []
  | m :: ms => s.made m ++ chronicle (s.step m) ms

end Process

/-! ### Numbers without a gap

A list of types takes the numbers from one state of the counter to another if together with all
numbers below the first it makes up all numbers below the second.
-/

/-- The types take the numbers from `n` to `n'` one after the other. -/
def Continues (n : Nat) (ts : List ProxyType) (n' : Nat) : Prop :=
  List.range n ++ ts.map (·.id) = List.range n'

namespace Continues

variable {n n' n'' : Nat} {ts us : List ProxyType}

/-- To make nothing leaves the counter where it is. -/
theorem nothing : Continues n [] n :=
  List.append_nil _

/-- One type takes one number. -/
theorem one {t : ProxyType} (h : t.id = n) : Continues n [t] (n + 1) := by
  rw [Continues, List.range_succ, List.map_singleton, h]

/-- What is made next goes on where the counter stands. -/
theorem append (h : Continues n ts n') (h' : Continues n' us n'') : Continues n (ts ++ us) n'' := by
  rw [Continues, List.map_append, ← List.append_assoc, h, h']

end Continues

/-- A platform numbers the type that it makes, and no other. -/
theorem Foundry.continues_made {f : Foundry} (hf : ∀ store, (f.cache store).Sound)
    (alive : Nat → Bool) (d : Domain) (is : List Interface) (p : Platform) :
    Continues f.next (f.made alive d is p) (f.proxyType alive p d is).2.2.next := by
  have h := f.answer_proxyType hf alive p d is
  unfold made
  generalize f.proxyType alive p d is = r at h ⊢
  obtain ⟨answer, notes, f'⟩ := r
  -- A hit and a refusal make nothing and leave the counter; any other answer takes its number.
  cases h with
  | hit live =>
    simp only [hits, live]
    exact .nothing
  | refused miss failed =>
    simp only [hits, miss]
    exact .nothing
  | made miss built =>
    simp only [hits, miss]
    exact .one (synthesize_eq_ok built).1
  | uncachedRefused uncached =>
    split
    · exact .nothing
    · exact .nothing
  | uncachedMade uncached number domain interfaces =>
    cases p with
    | caching store => exact absurd rfl (uncached store)
    | uncached | foreign | defective => exact .one number

/-- A handle makes the types that its platform makes. -/
theorem Foundry.handleIn_foundry (f : Foundry) (alive : Nat → Bool) (p : Platform) (d : Domain)
    (is : List Interface) :
    (f.handleIn alive p d is).2.2 = (f.proxyType alive p d is).2.2 := by
  unfold handleIn
  rcases f.proxyType alive p d is with ⟨e | t, notes, f'⟩
  · rfl
  · rfl

/-- To build a handle is to ask a platform once, or to fail without asking. -/
theorem Foundry.handleFrom_cases (f : Foundry) (alive : Nat → Bool) (p : Platform)
    (o : HandleOrigin) :
    o.asks = [] ∧ f.handleFrom alive p o = (.error (.construction .emptyInterfaceSet), [], f) ∨
      ∃ d is, o.asks = [(d, is)] ∧ f.handleFrom alive p o = f.handleIn alive p d is := by
  cases o with
  | first is =>
    cases is with
    | nil => exact .inl ⟨rfl, rfl⟩
    | cons i is => exact .inr ⟨i.domain, i :: is, rfl, rfl⟩
  | within d is => exact .inr ⟨d, is, rfl, rfl⟩
  | cls c => exact .inr ⟨c.domain, c.interfaces, rfl, rfl⟩

namespace Process

variable {η : Type} {s : Process η} {p : Platform} {d : Domain} {is : List Interface}
  {t : ProxyType}

/-- A request leaves the foundry as the platform does. -/
theorem request_foundry (s : Process η) (p : Platform) (d : Domain) (is : List Interface) :
    (s.request p d is).2.foundry = (s.foundry.proxyType s.alive p d is).2.2 := by
  unfold request
  rcases s.foundry.proxyType s.alive p d is with ⟨e | t, notes, f⟩
  · rfl
  · exact accept_foundry ..

/-- To take a handle makes no type. -/
theorem receive_foundry (s : Process η) (p : Platform)
    (built : Except BridgeError Handle × List Note × Foundry) :
    (s.receive p built).2.foundry = built.2.2 := by
  obtain ⟨e | h, notes, f⟩ := built
  · rfl
  · exact accept_foundry ..

/-- To take an instance makes no type. -/
theorem adopt_foundry {ε : Type} (s : Process η) (made : Except ε (Proxy η) × Nat) :
    (s.adopt made).2.foundry = s.foundry := by
  obtain ⟨e | p, n⟩ := made
  · rfl
  · rfl

/-- Every move numbers the types that it makes, and no others. -/
theorem Sound.continues_made (hs : s.Sound) (m : Move η) :
    Continues s.foundry.next (s.made m) (s.step m).foundry.next := by
  have hserved := Foundry.continues_made hs.caches s.alive
  cases m with
  | request p d is =>
    simp only [Process.made, Process.step]
    split
    · rw [request_foundry]
      exact hserved d is p
    · exact .nothing
  | handle p o =>
    simp only [Process.made, Process.step]
    split
    · rw [build, receive_foundry]
      rcases s.foundry.handleFrom_cases s.alive p o with ⟨hasks, hbuilt⟩ | ⟨d, is, hasks, hbuilt⟩
      · rw [hasks, hbuilt]
        exact .nothing
      · rw [hasks, hbuilt, List.flatMap_singleton, Foundry.handleIn_foundry]
        exact hserved d is p
    · exact .nothing
  | define d is table constructor => exact .one rfl
  | platform | drop => exact .nothing
  | clone place | share place =>
    simp only [Process.step]
    split
    · exact .nothing
    · exact .nothing
  | instantiate place handler =>
    simp only [Process.step]
    split
    · rw [instantiate, adopt_foundry]
      exact .nothing
    · exact .nothing
  | attach place p handler =>
    simp only [Process.step]
    split
    · exact .nothing
    · cases p with
      | none =>
        rw [attach, adopt_foundry]
        exact .nothing
      | some p =>
        rw [attach, adopt_foundry]
        exact .nothing

/-! ### Nothing else comes up -/

/-- What a platform answers is known already, or was made in order to answer. -/
theorem Sound.mem_of_proxyType (hs : s.Sound) (h : (s.foundry.proxyType s.alive p d is).1 = .ok t) :
    t ∈ s.types ∨ t ∈ s.foundry.made s.alive d is p := by
  -- A cache gives out what it has noted, and what is noted was given out before.
  by_cases hhit : s.foundry.hits s.alive d is p = true
  · have hanswer := s.foundry.answer_proxyType hs.caches s.alive p d is
    rw [h] at hanswer
    generalize (s.foundry.proxyType s.alive p d is).2.2 = f at hanswer
    cases hanswer with
    | hit live =>
      have hfind := ((TypeCache.live?_eq_some_iff ..).mp live).1
      exact .inl (mem_types.mpr (.inr ⟨_, hs.noted _ _ _ hfind⟩))
    | made miss built => simp [Foundry.hits, miss] at hhit
    | uncachedMade uncached number domain interfaces =>
      cases p with
      | caching store => exact absurd rfl (uncached store)
      | uncached | foreign | defective => cases hhit
  · rw [Foundry.made, if_neg hhit, h]
    exact .inr (List.mem_singleton.mpr rfl)

/-- A request brings up its answer and no other type. -/
theorem Sound.mem_types_request (hs : s.Sound) (h : t ∈ (s.request p d is).2.types) :
    t ∈ s.types ∨ t ∈ s.foundry.made s.alive d is p := by
  have hanswer : ∀ u, (s.foundry.proxyType s.alive p d is).1 = .ok u → _ := fun _ =>
    hs.mem_of_proxyType
  unfold request at h
  revert hanswer h
  generalize s.foundry.proxyType s.alive p d is = r
  obtain ⟨e | u, notes, f⟩ := r
  · exact fun h _ => .inl h
  · intro h hanswer
    rcases mem_types_accept.mp h with rfl | h
    · exact hanswer _ rfl
    · exact .inl h

/-- So does the building of a handle, even if there is no handle to be had on the answer. -/
theorem Sound.mem_types_handleIn (hs : s.Sound)
    (h : t ∈ (s.receive p (s.foundry.handleIn s.alive p d is)).2.types) :
    t ∈ s.types ∨ t ∈ s.foundry.made s.alive d is p := by
  have hanswer : ∀ u, (s.foundry.proxyType s.alive p d is).1 = .ok u → _ := fun _ =>
    hs.mem_of_proxyType
  unfold Foundry.handleIn at h
  revert hanswer h
  generalize s.foundry.proxyType s.alive p d is = r
  obtain ⟨e | u, notes, f⟩ := r
  · exact fun h _ => .inl h
  · intro h hanswer
    -- The answer comes into circulation with the handle, and is gone again where there is none.
    by_cases hcon : u.constructor.isSome = true
    · simp only [receive, Handle.of, dif_pos hcon] at h
      rcases mem_types_accept.mp h with rfl | h
      · exact hanswer _ rfl
      · exact .inl h
    · simp only [receive, Handle.of, dif_neg hcon] at h
      exact .inl h

/-- A move that makes nothing and asks for nothing brings up no type. -/
theorem Sound.mem_types_of_idle (hs : s.Sound) {m : Move η} (hmade : s.made m = [])
    (hasks : m.asks = []) (h : t ∈ (s.step m).types) : t ∈ s.types := by
  have hnext := hs.continues_made m
  have heffect := effect_step hs.caches m
  rw [hmade] at hnext
  -- No type of the host's own was made, since the counter stands where it stood.
  have hnext : s.foundry.next = (s.step m).foundry.next := by
    have hlength := congrArg List.length hnext
    simpa using hlength
  generalize s.step m = s' at h heffect hnext
  cases heffect with
  | frame cache next returned refs =>
    rcases mem_types.mp h with ⟨r, hr, rfl⟩ | ⟨store, h⟩
    · exact mem_types.mpr (.inl (refs r hr))
    · exact mem_types.mpr (.inr ⟨store, returned ▸ h⟩)
  | defined number => exact absurd hnext (Nat.ne_of_lt (Nat.lt_succ_self _))
  | served known asks _ =>
    rw [hasks] at asks
    cases asks

/-- A type that comes up in a move is made in it. -/
theorem Sound.mem_types_step (hs : s.Sound) (m : Move η) (h : t ∈ (s.step m).types) :
    t ∈ s.types ∨ t ∈ s.made m := by
  cases m with
  | request p d is =>
    simp only [Process.step] at h
    simp only [Process.made]
    split at h
    next hp =>
      rw [if_pos hp]
      exact hs.mem_types_request h
    next => exact .inl h
  | handle p o =>
    simp only [Process.step] at h
    simp only [Process.made]
    split at h
    next hp =>
      rw [if_pos hp]
      rw [build] at h
      rcases s.foundry.handleFrom_cases s.alive p o with ⟨_, hbuilt⟩ | ⟨d, is, hasks, hbuilt⟩
      · rw [hbuilt] at h
        exact .inl h
      · rw [hbuilt] at h
        rw [hasks, List.flatMap_singleton]
        exact hs.mem_types_handleIn h
    next => exact .inl h
  | define d is table constructor =>
    rcases mem_types_hold.mp h with rfl | h
    · exact .inr (List.mem_singleton.mpr rfl)
    · exact .inl h
  | platform | clone | share | drop | instantiate | attach =>
    exact .inl (hs.mem_types_of_idle rfl rfl h)

/-! ### Runs -/

/-- Moves number the types that they make, and no others. -/
theorem Sound.continues_chronicle (hs : s.Sound) (ms : List (Move η)) :
    Continues s.foundry.next (s.chronicle ms) (s.steps ms).foundry.next := by
  induction ms generalizing s with
  | nil => exact .nothing
  | cons m ms ih => exact (hs.continues_made m).append (ih (hs.step m))

/-- The types of a run are numbered from zero in the order in which they are made, without a gap. -/
theorem map_id_chronicle (ms : List (Move η)) :
    ((chronicle {} ms).map (·.id)) = List.range (run ms).foundry.next := by
  have h := Sound.start.continues_chronicle ms
  rw [Continues, List.range_zero, List.nil_append] at h
  exact h

/-- Types of different numbers have different names. -/
theorem name_injective {t u : ProxyType} (h : t.name = u.name) : t.id = u.id := by
  simp only [ProxyType.name, String.append_right_inj] at h
  exact Nat.repr_injective h

/-- No two types of a run have one name. -/
theorem nodup_map_name_chronicle (ms : List (Move η)) :
    ((chronicle {} ms).map (·.name)).Nodup := by
  have hids : ((chronicle {} ms).map (·.id)).Nodup := map_id_chronicle ms ▸ List.nodup_range
  rw [List.Nodup, List.pairwise_map] at hids ⊢
  exact hids.imp fun hne heq => hne (name_injective heq)

/-- A set whose type was dropped gets a type of a new name. -/
example :
    let d : Domain := .root 1 "app"
    let i : Interface := (Interface.new "Shape" d .interface).build 1
    let request : Move Unit := .request (.caching 0) d [i]
    (chronicle {} [request, request, .drop 0, .drop 0, request]).map (·.name) =
      ["$Proxy0", "$Proxy1"] := by
  cbv

/-- Whatever is held or was given out by a cache at some time was made before. -/
theorem Sound.mem_chronicle_of_mem_types (hs : s.Sound) (ms : List (Move η))
    (h : t ∈ (s.steps ms).types) : t ∈ s.types ∨ t ∈ s.chronicle ms := by
  induction ms generalizing s with
  | nil => exact .inl h
  | cons m ms ih =>
    rw [chronicle, List.mem_append]
    -- From the end of the run backwards: it was made later, or in this move, or was there already.
    rcases ih (hs.step m) h with h | h
    · rcases hs.mem_types_step m h with h | h
      · exact .inl h
      · exact .inr (.inl h)
    · exact .inr (.inr h)

end Process

end Interop
