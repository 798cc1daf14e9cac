import Interop.Proofs.Agreement
import Interop.Proofs.Calls
import Interop.Proofs.Refusal

namespace Interop

/-!
# Calls by name

A call by names looks a method up in the interfaces of the type, and then goes by the method's signature
through the table. The two look-ups agree, because the table of a type is that of its interfaces.

* `ProxyType.Named`, `ProxyType.Unnamed` — the method that two names stand for; names that stand for none.
* `ProxyType.GoesTo`, `ProxyType.Means`, `ProxyType.ByName` — where the calls of a method go; what it is that
  a call by names is the call of a method; how calls by names go.
* `ProxyType.Synthesized.byName` — so they go on every synthesized type.
* `Process.Sound.synthesized_of_proxyType` — what a validating platform gives out is synthesized, whether
  it was just made or found in a cache.
* `Process.byName_of_proxyType` — hence how calls by name go on any such type, after any run.

Names tell less than descriptors. Several interfaces may have one name, several methods of an
interface may have one, too, and in both cases the first is meant. What the method so found is good
for is then a matter of its signature, since the table knows nothing of names. That its signature has
a slot is the point where the table has to be that of the interfaces: the method is declared by one of
them, and all declarations of a table have slots.
-/

namespace ProxyType

variable (t : ProxyType) (interface name : String)

/-! ### Names -/

/-- The first interface of the one name declares `method`, as its first of the other name. -/
def Named (method : Method) : Prop :=
  ∃ i, FirstWith (·.name = interface) t.interfaces i ∧ FirstWith (·.name = name) i.methods method

/-- No interface has the name, or the first that has it declares no method of the other name. -/
inductive Unnamed : Prop
  | interface (h : ∀ i ∈ t.interfaces, i.name ≠ interface)
  | method {i : Interface} (hi : FirstWith (·.name = interface) t.interfaces i)
      (h : ∀ m ∈ i.methods, m.name ≠ name)

variable {t interface name}

/-- What is found is the first interface of the name. -/
theorem find?_interface_eq_some_iff {i : Interface} :
    t.interfaces.find? (·.name == interface) = some i ↔ FirstWith (·.name = interface) t.interfaces i :=
  find?_eq_some_iff_firstWith fun _ => beq_iff_eq

/-- What is found by names is what they stand for. -/
theorem findMethod?_eq_some_iff {method : Method} :
    t.findMethod? interface name = some method ↔ t.Named interface name method := by
  have hmethod : ∀ i : Interface,
      i.find? name = some method ↔ FirstWith (·.name = name) i.methods method :=
    fun i => find?_eq_some_iff_firstWith fun _ => beq_iff_eq
  simp only [findMethod?, Option.bind_eq_some_iff, find?_interface_eq_some_iff, hmethod, Named]

/-- Nothing is found by names that stand for nothing. -/
theorem findMethod?_eq_none_iff_unnamed :
    t.findMethod? interface name = none ↔ t.Unnamed interface name := by
  unfold findMethod?
  cases hfind : t.interfaces.find? (·.name == interface) with
  | none =>
    have hno : ∀ i ∈ t.interfaces, i.name ≠ interface := by simpa using hfind
    simpa using Unnamed.interface hno
  | some i =>
    have hi := find?_interface_eq_some_iff.mp hfind
    have hnone : i.find? name = none ↔ ∀ m ∈ i.methods, m.name ≠ name := by
      simp [Interface.find?]
    rw [Option.bind_some, hnone]
    constructor
    · exact .method hi
    · rintro (hno | ⟨hi', hno⟩)
      · -- The interface that was found has the name.
        exact absurd hi.holds (hno i hi.mem)
      · rwa [hi.unique hi']

/-! ### Where a call goes -/

/-- The calls of `method` go to `slot`: with a fitting number of arguments to the handler, which gets the
    slot and nothing else of what was called, and otherwise back to the caller. -/
structure GoesTo (t : ProxyType) (method slot : Method) : Prop where
  handled : ∀ (m : Type → Type) [Monad m] (handle : Method → List Value → m (Except ScriptError Value))
    (args : List Value), slot.Takes args.length →
      t.call handle method args = do return (← handle slot args).mapError .script
  returned : ∀ (m : Type → Type) [Monad m] (handle : Method → List Value → m (Except ScriptError Value))
    (args : List Value), ¬ slot.Takes args.length →
      t.call handle method args =
        pure (.error (.arityMismatch slot.signature.text slot.params.length args.length))

/-- The calls of a method go to the slot of its signature. -/
theorem goesTo_of_resolve {method slot : Method} (h : t.table.resolve method.signature = some slot) :
    t.GoesTo method slot := by
  have hslotFor : ∀ n, t.slotFor method n =
      if slot.admits n then .ok slot
      else .error (.arityMismatch slot.signature.text slot.params.length n) := by
    intro n
    simp [slotFor, h]
  constructor
  · intro m _ handle args htakes
    have hadmits := (slot.admits_eq_true_iff args.length).mpr htakes
    exact t.call_of_ok (by rw [hslotFor, if_pos hadmits])
  · intro m _ handle args htakes
    have hadmits := mt (slot.admits_eq_true_iff args.length).mp htakes
    exact t.call_of_error (by rw [hslotFor, if_neg hadmits])

/-- A call by the two names is a call of `method`. -/
structure Means (t : ProxyType) (interface name : String) (method : Method) : Prop where
  named : t.Named interface name method
  same : ∀ (m : Type → Type) [Monad m] (handle : Method → List Value → m (Except ScriptError Value))
    (args : List Value), t.callByName handle interface name args = t.call handle method args
  /-- It is not refused for want of a method. -/
  found : ∀ (σ : Type) (handle : Handler σ) (s : σ) (args : List Value),
    ¬ MethodRefused (t.answer handle s method args)
  /-- It goes to a slot with the name, the parameters and the result of the method. -/
  slot : ∃ slot ∈ t.table.slots, slot.name = method.name ∧ slot.params = method.params ∧
    slot.ret = method.ret ∧ t.GoesTo method slot

/-- How calls by the two names go. -/
structure ByName (t : ProxyType) (interface name : String) : Prop where
  /-- A call is refused for want of a method iff the names stand for none. -/
  refused : ∀ (σ : Type) (handle : Handler σ) (s : σ) (args : List Value),
    MethodRefused (t.answerByName handle s args interface name) ↔ t.Unnamed interface name
  /-- Such a refusal gives the two names, and nothing else happens. -/
  reported : t.Unnamed interface name →
    ∀ (m : Type → Type) [Monad m] (handle : Method → List Value → m (Except ScriptError Value))
      (args : List Value), t.callByName handle interface name args =
        pure (.error (.noSuchMethod t.name (interface ++ "." ++ name)))
  /-- Any other call is that of the method for which the names stand. -/
  agrees : ¬ t.Unnamed interface name → ∃ method, t.Means interface name method

namespace Synthesized

/-- A method that is found by its names has a slot, with the result of the method. -/
theorem exists_slot_of_named (ht : t.Synthesized) {method : Method}
    (h : t.Named interface name method) :
    ∃ slot, t.table.resolve method.signature = some slot ∧ slot.ret = method.ret := by
  obtain ⟨i, hi, hmethod⟩ := h
  obtain ⟨slot, hfirst, hslot⟩ := ht.exists_slot hi.mem hmethod.mem
  -- The slot and the method are both declared by the type, and declarations of one signature agree.
  have hagree := (DispatchTable.exists_build_iff _).mp ⟨_, ht.build⟩
  have hdeclared : method ∈ DispatchTable.declarations t.interfaces :=
    List.mem_flatMap.mpr ⟨i, hi.mem, hmethod.mem⟩
  have howner : slot ∈ DispatchTable.declarations t.interfaces := List.mem_of_find?_eq_some hfirst
  have hsig : slot.signature = method.signature := DispatchTable.signature_of_first? hfirst
  exact ⟨slot, hslot, hagree slot howner method hdeclared hsig⟩

/-- A call by names that stand for a method is a call of that method. -/
theorem means_of_named (ht : t.Synthesized) {method : Method} (h : t.Named interface name method) :
    t.Means interface name method := by
  have hfound := findMethod?_eq_some_iff.mpr h
  obtain ⟨slot, hslot, hret⟩ := ht.exists_slot_of_named h
  obtain ⟨hmem, hsig⟩ := t.table.resolve_eq_some_iff.mp hslot
  have hname : slot.name = method.name := congrArg Signature.name hsig
  have hparams : slot.params = method.params := congrArg Signature.params hsig
  refine ⟨h, fun m _ handle args => ?_, fun σ handle s args => ?_,
    slot, hmem, hname, hparams, hret, goesTo_of_resolve hslot⟩
  · rw [callByName, hfound]
  · rw [methodRefused_iff, hslot]
    exact Option.some_ne_none slot

/-- So calls by name go on every synthesized type. -/
theorem byName (ht : t.Synthesized) (interface name : String) : t.ByName interface name := by
  refine ⟨fun σ handle s args => ?_, fun hno m _ handle args => ?_, fun hsome => ?_⟩
  · rw [ht.methodRefused_answerByName_iff, findMethod?_eq_none_iff_unnamed]
  · rw [callByName, findMethod?_eq_none_iff_unnamed.mpr hno]
  · rw [← findMethod?_eq_none_iff_unnamed] at hsome
    obtain ⟨method, hfound⟩ := Option.ne_none_iff_exists'.mp hsome
    exact ⟨method, ht.means_of_named (findMethod?_eq_some_iff.mp hfound)⟩

end Synthesized

end ProxyType

/-! ### Types that platforms give out -/

namespace Process

variable {η : Type} {s : Process η} {p : Platform} {d : Domain} {is : List Interface} {t : ProxyType}

/-- What a validating platform gives out is synthesized. -/
theorem Sound.synthesized_of_proxyType (hs : s.Sound) (hp : p.validates = true)
    (h : (s.foundry.proxyType s.alive p d is).1 = .ok t) : t.Synthesized := by
  cases p with
  | caching store =>
    -- A cached type was synthesized when it was made, and that is noted in the invariant.
    have hanswer := s.foundry.answer_proxyType hs.caches s.alive (.caching store) d is
    rw [h] at hanswer
    exact hanswer.synthesized hs.caches
  | uncached =>
    rw [Foundry.proxyType_uncached] at h
    exact (synthesize_eq_ok h).2.2.2
  | foreign constructor => cases hp
  | defective defect => cases hp

/-- After any run, calls by name go so on every type that a validating platform gives out. -/
theorem byName_of_proxyType (ms : List (Move η)) (hp : p.validates = true)
    (h : ((run ms).foundry.proxyType (run ms).alive p d is).1 = .ok t) (interface name : String) :
    t.ByName interface name :=
  ((Sound.run ms).synthesized_of_proxyType hp h).byName interface name

end Process

namespace ProxyType.Loggers

/-- A call of the second descriptor's method by name goes to the slot that the first one owns. -/
theorem byName_log :
    let s : Process Unit := Process.run []
    Platform.uncached.validates = true ∧
      (s.foundry.proxyType s.alive .uncached both.domain both.interfaces).1 = .ok both ∧
      both.ByName "Logger" "log" ∧ both.Named "Logger" "log" log ∧
      both.GoesTo log ⟨"Console", "log", [.array .string], .void, false⟩ := by
  intro s
  have hvalidates : Platform.uncached.validates = true := rfl
  have hmade : (s.foundry.proxyType s.alive .uncached both.domain both.interfaces).1 = .ok both := by
    rw [Foundry.proxyType_uncached]
    exact synthesized_both
  have hnamed : both.Named "Logger" "log" log := findMethod?_eq_some_iff.mp (by decide)
  exact ⟨hvalidates, hmade, Process.byName_of_proxyType [] hvalidates hmade "Logger" "log", hnamed,
    goesTo_of_resolve rfl⟩

end ProxyType.Loggers

end Interop
