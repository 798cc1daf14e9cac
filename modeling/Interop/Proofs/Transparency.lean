import Interop.Proofs.WeakCache

namespace Interop

/-!
# When a cache shows

A caching platform looks at identities only, so a hit skips the checks and gives out a type that was
made of what the identities stood for earlier. Whether this shows depends on what else the same
identities have stood for.

* `Process.request_uncached` — what a platform without a cache answers depends on the request alone.
* `Process.request_agrees_iff` — a caching platform agrees with it on a request iff every held type
  that it gave out for the key has the contracts of the request, all of them visible.
* `Process.unbuilt_share_type` — two descriptors that were never built share one type.
* `Catalogue` — the domains and descriptors of a host, where every descriptor is as `build` gave it;
  `Process.request_agrees_of_catalogue` shows that the cache never shows among these.

Identities are what a request is found by. If the same identities always stand for the same domain and
the same descriptors, then a hit gives what would have been made, except that the type is not new; and
if they do not, a hit may give a type with other methods, or one that the domain may not implement.
What the identities of a request stood for is on record: it is what the held type of the key was made
of. So the condition compares the request with that type, and asks for nothing but what a request is
checked for and what shows afterwards.
-/

namespace Process

variable {η : Type} {s : Process η} {store : Nat} {d : Domain} {is : List Interface}

/-- What a platform without a cache answers does not depend on the state of the process. -/
theorem request_uncached (s : Process η) (d : Domain) (is : List Interface) :
    outcome (s.request .uncached d is).1 = outcome (synthesize 0 d is) := by
  rw [← outcome_synthesize_number s.foundry.next]
  simp only [Process.request, Foundry.proxyType, Foundry.synthesize]
  cases synthesize s.foundry.next d is with
  | error e => rfl
  | ok t => rfl

/-- A request that misses answers as if there were no cache. -/
theorem Sound.outcome_of_miss (hs : s.Sound)
    (h : (s.foundry.cache store).live? s.alive (TypeKey.of d is) = none) :
    outcome (s.request (.caching store) d is).1 = outcome (synthesize 0 d is) := by
  rw [← outcome_synthesize_number s.foundry.next]
  cases hr : synthesize s.foundry.next d is with
  | error e => rw [request_refused h hr]
  | ok t => rw [hs.request_made h hr]

/-- A request that hits answers as if there were no cache iff the contracts of the live type are those
    of the request, all of them visible. -/
theorem Sound.outcome_of_hit_iff (hs : s.Sound) {t : ProxyType}
    (h : (s.foundry.cache store).live? s.alive (TypeKey.of d is) = some t) :
    outcome (s.request (.caching store) d is).1 = outcome (synthesize 0 d is) ↔
      t.interfaces.map (·.contract) = is.map (·.contract) ∧
        ∀ i ∈ is, d.canSee i.domain = true := by
  obtain ⟨hfind, -⟩ := (TypeCache.live?_eq_some_iff ..).mp h
  have hsyn := (hs.caches store).synthesized _ (TypeCache.mem_of_find? hfind)
  have hkey := (hs.caches store).key_of_find? hfind
  -- A hit answers with the type itself, which was synthesized for a key like this one.
  rw [request_hit h, eq_comm]
  exact outcome_synthesize_eq_ok_iff hsyn (congrArg TypeKey.domain hkey)
    (congrArg TypeKey.interfaces hkey) 0

/-- In a sound process, a request answers as if there were no cache iff every held type that was given
    out for its key has the contracts of the request, all of them visible. -/
theorem Sound.outcome_request_iff (hs : s.Sound) :
    outcome (s.request (.caching store) d is).1 = outcome (synthesize 0 d is) ↔
      ∀ t, (store, t) ∈ s.returned → s.Holds t → t.key = TypeKey.of d is →
        t.interfaces.map (·.contract) = is.map (·.contract) ∧
          ∀ i ∈ is, d.canSee i.domain = true := by
  cases h : (s.foundry.cache store).live? s.alive (TypeKey.of d is) with
  | none =>
    have hnone : ∀ t, (store, t) ∈ s.returned → s.Holds t → t.key ≠ TypeKey.of d is := by
      intro t hnoted hholds hkey
      rw [hs.live?_eq_some_iff.mpr ⟨hnoted, hholds, hkey⟩] at h
      cases h
    exact iff_of_true (hs.outcome_of_miss h) fun t hnoted hholds hkey =>
      absurd hkey (hnone t hnoted hholds)
  | some t =>
    rw [hs.outcome_of_hit_iff h]
    constructor
    · intro hcond u hnoted hholds hkey
      -- The held types of one key are all the live one.
      have hu := hs.live?_eq_some_iff.mpr ⟨hnoted, hholds, hkey⟩
      rw [h] at hu
      cases hu
      exact hcond
    · intro hall
      obtain ⟨hnoted, hholds, hkey⟩ := hs.live?_eq_some_iff.mp h
      exact hall t hnoted hholds hkey

/-- After every run, a caching platform answers a request as a platform without a cache would in any
    state, iff every type that it gave out for the key and that is still held has, in order, the
    contracts of the requested interfaces, and all of these are visible from the domain. -/
theorem request_agrees_iff (ms : List (Move η)) (s' : Process η) (store : Nat) (d : Domain)
    (is : List Interface) :
    outcome ((run ms).request (.caching store) d is).1 = outcome (s'.request .uncached d is).1 ↔
      ∀ t, (store, t) ∈ (run ms).returned → (run ms).Holds t → t.key = TypeKey.of d is →
        t.interfaces.map (·.contract) = is.map (·.contract) ∧
          ∀ i ∈ is, d.canSee i.domain = true := by
  rw [request_uncached]
  exact (Sound.run ms).outcome_request_iff

/-- A descriptor of the domain `d` with one method, never built. -/
def unbuilt (d : Domain) (name method : String) : Interface :=
  (Interface.new name d .interface).declare ⟨name, method, [], .void, false⟩

/-- One such descriptor is acceptable in its own domain. -/
theorem acceptable_unbuilt (d : Domain) (name method : String) :
    Acceptable d [unbuilt d name method] := by
  refine ⟨by simp, by simp [interfaceLimit], ?_, ?_, by simp⟩
  · intro i hi
    rw [List.mem_singleton.mp hi]
    rfl
  · intro i hi
    rw [List.mem_singleton.mp hi]
    exact d.canSee_self

/-- While a type of one unbuilt descriptor is held, a request for another one gets that type, although
    a platform without a cache would make one for the other descriptor. -/
theorem unbuilt_share_type :
    let d : Domain := .root 1 "app"
    let s : Process Unit := run [.request (.caching 0) d [unbuilt d "A" "first"]]
    outcome (s.request (.caching 0) d [unbuilt d "B" "second"]).1 ≠
      outcome (s.request .uncached d [unbuilt d "B" "second"]).1 := by
  intro d s
  let t : ProxyType :=
    ⟨0, d, [unbuilt d "A" "first"], .push .empty ⟨"A", "first", [], .void, false⟩ rfl, some {}⟩
  have ht : synthesize 0 d [unbuilt d "A" "first"] = .ok t :=
    synthesize_eq_ok_iff.mpr ⟨acceptable_unbuilt d "A" "first", by rfl, rfl⟩
  have hs : s = (Process.request {} (.caching 0) d [unbuilt d "A" "first"]).2 := rfl
  rw [Sound.start.request_made (by rfl) ht] at hs
  have hnoted : (0, t) ∈ s.returned := by
    rw [hs]
    exact List.mem_cons_self
  have hholds : s.Holds t := by
    rw [hs]
    exact ⟨.type t, List.mem_cons_self, rfl⟩
  rw [request_uncached, Ne, (Sound.run _).outcome_request_iff]
  intro hall
  -- Both descriptors have serial number zero, so the keys are the same; the contracts are not.
  have hsame := (hall t hnoted hholds rfl).1
  exact absurd hsame (by decide)

end Process

/-! ### Descriptors with an identity of their own

Domains take their identities from a counter, and descriptors do so when they are built. A host that
keeps to built descriptors can tell all of them apart by number.
-/

/-- The domains and the descriptors of a host, newest first, with their counters. -/
structure Catalogue where
  forest : Forest := {}
  nextInterface : Nat := 1
  interfaces : List Interface := []

/-- What a host adds to its catalogue. A place is a position among its domains. -/
inductive Addition
  /-- A domain under the one at a place, or a root. -/
  | domain (name : String) (parent : Option Nat)
  /-- A descriptor of the domain at a place, built after its methods were declared. -/
  | interface (name : String) (place : Nat) (kind : DescriptorKind) (methods : List Method)

namespace Catalogue

/-- The catalogue after an addition; without a domain at the place there is no descriptor. -/
def add (c : Catalogue) : Addition → Catalogue
  | .domain name parent =>
    { c with forest := (c.forest.grow name (parent.bind (c.forest.domains[·]?))).2 }
  | .interface name place kind methods =>
    match c.forest.domains[place]? with
    | none => c
    | some d =>
      let i := (methods.foldl Interface.declare (.new name d kind)).build c.nextInterface
      { c with nextInterface := c.nextInterface + 1, interfaces := i :: c.interfaces }

/-- The catalogue after additions in order. -/
def run (as : List Addition) : Catalogue :=
  as.foldl add {}

/-- A request for `q` is one for a domain and descriptors of the catalogue. -/
def Lists (c : Catalogue) (q : Domain × List Interface) : Prop :=
  q.1 ∈ c.forest.domains ∧ ∀ i ∈ q.2, i ∈ c.interfaces

/-- Every domain and every descriptor has a number of its own. -/
structure Sound (c : Catalogue) : Prop where
  domains : Numbered Domain.id c.forest.next c.forest.domains
  interfaces : Numbered Interface.serial c.nextInterface c.interfaces

variable {c : Catalogue}

/-- Additions take the next number. -/
theorem Sound.add (hc : c.Sound) (a : Addition) : (c.add a).Sound := by
  cases a with
  | domain name parent =>
    exact ⟨hc.domains.cons (c.forest.id_grow name _), hc.interfaces⟩
  | interface name place kind methods =>
    simp only [Catalogue.add]
    split
    next => exact hc
    next d hd => exact ⟨hc.domains, hc.interfaces.cons rfl⟩

/-- So after any additions every domain and every descriptor has a number of its own. -/
theorem Sound.run (as : List Addition) : (Catalogue.run as).Sound :=
  List.foldlRecOn as Catalogue.add ⟨.nil, .nil⟩ fun _ hc a _ => hc.add a

/-- Requests for what is in a catalogue are told apart by their keys. -/
theorem Sound.eq_of_key (hc : c.Sound) {d e : Domain} {is js : List Interface} (hd : c.Lists (d, is))
    (he : c.Lists (e, js)) (hkey : TypeKey.of d is = TypeKey.of e js) : d = e ∧ is = js := by
  obtain ⟨hid, hserials⟩ := TypeKey.mk.inj hkey
  exact ⟨hc.domains.unique d hd.1 e he.1 hid, hc.interfaces.eq_of_map_eq hd.2 he.2 hserials⟩

end Catalogue

/-- If all that was ever asked for is in a catalogue, the cache never shows. -/
theorem Process.request_agrees_of_catalogue {η : Type} (as : List Addition) (ms : List (Move η))
    (s' : Process η) (store : Nat) {d : Domain} {is : List Interface}
    (hasked : ∀ q ∈ ms.flatMap Move.asks, (Catalogue.run as).Lists q)
    (hnow : (Catalogue.run as).Lists (d, is)) :
    outcome ((run ms).request (.caching store) d is).1 = outcome (s'.request .uncached d is).1 := by
  have hs := Sound.run ms
  rw [request_uncached, hs.outcome_request_iff]
  intro t hnoted hholds hkey
  have hlists := hasked _ (asked_of_returned ms hnoted)
  obtain ⟨rfl, rfl⟩ := (Catalogue.Sound.run as).eq_of_key hlists hnow hkey
  -- The type was synthesized for this very request.
  have hlive := (TypeCache.live?_eq_some_iff ..).mp (hs.live?_eq_some_iff.mpr ⟨hnoted, hholds, rfl⟩)
  have hsyn := (hs.caches store).synthesized _ (TypeCache.mem_of_find? hlive.1)
  exact ⟨rfl, hsyn.acceptable.visible⟩

end Interop
