import Interop.Proofs.Calls
import Interop.Proofs.Process

namespace Interop

/-!
# What stands behind an error

An error may name one that stands behind it, and so on to the end. What script code raised comes with
its causes, and reaches the caller of the host whole, wherever it was raised.

* `Failure`, `Failure.source?` — errors of any sort, and the one that stands behind an error.
* `Failure.Behind` — the errors behind an error, nearest first; `Failure.Behind.eq`,
  `Failure.exists_behind` — every error has one such list.
* `Failure.behind_script`, `Failure.Behind.texts` — for a script error it is the list of its causes, and
  for an error of the bridge the texts are its `sources`.
* `Forwarding.Raises` — what raises a script error in a forwarded call.
* `BridgeError.Produced` — the errors that operations on bridges and instances come to, whatever
  platforms, handlers and engines answer.
* `BridgeError.CauseLaws`, `BridgeError.causeLaws` — where script errors come from, and what stands
  behind errors.

The errors behind an error are found by asking it for its source again and again. As a relation this
has one rule for the end and one for a step, so it needs no argument that it ends; that every error
has a list, and one only, is proved. For a script error the list is its causes, by induction on the
error. No other error has more than one step to go before it comes to a script error or to the end.

Where errors come from is settled operation by operation: each has an equivalence that says which
errors of the parts it is made of it comes to. A script error is passed on as it is by every one of
them, so nothing between the place where it is raised and the caller can take a cause off it. The
broken invariants are what is left: there are two ways to come to one, and script errors stand behind
neither.
-/

/-- The causes of an error, nearest first. -/
def ScriptError.causes : ScriptError → List ScriptError
  | .plain _ => []
  | .caused _ c => c :: c.causes

/-- An error of any sort. -/
inductive Failure
  | script (e : ScriptError)
  | construction (e : ConstructionError)
  | instantiation (e : InstantiationError)
  | bridge (e : BridgeError)

namespace Failure

/-- The wording of the error. -/
def message : Failure → String
  | script e => e.message
  | construction e => e.message
  | instantiation e => e.message
  | bridge e => e.message

/-- The error that stands behind an error, if it names one. What a constructor raised is in the wording
    of the instantiation error, and does not stand behind it. -/
def source? : Failure → Option Failure
  | script (.plain _) => none
  | script (.caused _ c) => some (.script c)
  | construction _ => none
  | instantiation _ => none
  | bridge (.construction e) => some (.construction e)
  | bridge (.illegalState _ source) => source.map .instantiation
  | bridge (.script e) => some (.script e)
  | bridge (.noSuchMethod ..) => none
  | bridge (.arityMismatch ..) => none

/-- The errors behind an error, nearest first and to the end. -/
inductive Behind : Failure → List Failure → Prop
  | last {e : Failure} (h : e.source? = none) : Behind e []
  | next {e e' : Failure} {es : List Failure} (h : e.source? = some e') (hes : Behind e' es) :
      Behind e (e' :: es)

/-- Every error names one source at most, so no error has two lists behind it. -/
theorem Behind.eq {e : Failure} {es es' : List Failure} (h : Behind e es) (h' : Behind e es') :
    es = es' := by
  induction h generalizing es' with
  | last h =>
    cases h' with
    | last => rfl
    | next hnext => rw [h] at hnext; cases hnext
  | next h _ ih =>
    cases h' with
    -- The two lists cannot part: one of them ends here iff the error has no source.
    | last hlast => rw [h] at hlast; cases hlast
    | next hnext hes =>
      obtain rfl := Option.some.inj (h.symm.trans hnext)
      rw [ih hes]

/-- Behind a script error stand its causes, and these are all. -/
theorem behind_script (e : ScriptError) : Behind (.script e) (e.causes.map .script) := by
  induction e with
  | plain t => exact .last rfl
  | caused t c ih => exact .next rfl ih

/-- The list of errors behind an error ends. -/
theorem exists_behind (e : Failure) : ∃ es, Behind e es := by
  cases e with
  | script e => exact ⟨_, behind_script e⟩
  | construction | instantiation => exact ⟨[], .last rfl⟩
  | bridge e =>
    cases e with
    | construction e => exact ⟨[.construction e], .next rfl (.last rfl)⟩
    | illegalState t source =>
      cases source with
      | none => exact ⟨[], .last rfl⟩
      | some i => exact ⟨[.instantiation i], .next rfl (.last rfl)⟩
    | script e => exact ⟨_, .next rfl (behind_script e)⟩
    | noSuchMethod | arityMismatch => exact ⟨[], .last rfl⟩

/-- The sources of a script error are the texts of its causes. -/
theorem message_causes (e : ScriptError) : (e.causes.map script).map message = e.sources := by
  induction e with
  | plain t => rfl
  | caused t c ih => exact congrArg (c.message :: ·) ih

/-- The texts of the errors behind an error of the bridge. -/
theorem Behind.texts {e : BridgeError} {es : List Failure} (h : Behind (.bridge e) es) :
    es.map message = e.sources := by
  -- The list is found by following the sources; by uniqueness it is the one that is given.
  cases e with
  | construction e => rw [h.eq (.next rfl (.last rfl))]; rfl
  | illegalState t source =>
    cases source with
    | none => rw [h.eq (.last rfl)]; rfl
    | some i => rw [h.eq (.next rfl (.last rfl))]; rfl
  | script e =>
    rw [h.eq (.next rfl (behind_script e))]
    exact congrArg (e.message :: ·) (message_causes e)
  | noSuchMethod | arityMismatch => rw [h.eq (.last rfl)]; rfl

end Failure

/-- The texts of an error and its causes make up the error. -/
theorem ScriptError.ofTexts_sources (e : ScriptError) : .ofTexts e.message e.sources = e := by
  induction e with
  | plain t => rfl
  | caused t c ih => exact congrArg (caused t) ih

/-! ### Calls

A call is refused before its handler is asked, or fails as the handler fails. These are read off the
answer of a call, `answer_eq`, and not off the program again.
-/

namespace ProxyType

variable (t : ProxyType)

/-- A call that does not reach its handler is refused for its method or its argument count. -/
theorem refused_of_slotFor {method : Method} {n : Nat} {e : BridgeError}
    (h : t.slotFor method n = .error e) :
    (∃ m, e = .noSuchMethod t.name m) ∨ ∃ m expected, e = .arityMismatch m expected n := by
  unfold slotFor at h
  split at h
  next => exact .inl ⟨_, (Except.error.inj h).symm⟩
  next slot _ =>
    split at h
    next => cases h
    next => exact .inr ⟨_, _, (Except.error.inj h).symm⟩

variable {ω : Type} (handle : Handler ω) (s : ω) (method : Method) (args : List Value)

/-- A call that fails is refused, or its handler raises a script error. -/
theorem answer_eq_error_iff {e : BridgeError} :
    t.answer handle s method args = .error e ↔
      t.slotFor method args.length = .error e ∨
        ∃ slot raised, t.slotFor method args.length = .ok slot ∧
          ((handle slot args).run s).1 = .error raised ∧ e = .script raised := by
  rw [answer_eq]
  cases t.slotFor method args.length with
  | error e' => simp
  | ok slot => cases h : ((handle slot args).run s).1 <;> simp [Except.mapError, h, eq_comm]

/-- The script errors of a call are those that the handler raises. -/
theorem answer_eq_script_iff {e : ScriptError} :
    t.answer handle s method args = .error (.script e) ↔
      ∃ slot, t.slotFor method args.length = .ok slot ∧ ((handle slot args).run s).1 = .error e := by
  rw [answer_eq_error_iff]
  constructor
  · rintro (hrefused | ⟨slot, raised, hslot, hraised, heq⟩)
    · rcases t.refused_of_slotFor hrefused with ⟨_, heq⟩ | ⟨_, _, heq⟩
      · cases heq
      · cases heq
    · cases heq
      exact ⟨slot, hslot, hraised⟩
  · rintro ⟨slot, hslot, hraised⟩
    exact .inr ⟨slot, e, hslot, hraised, rfl⟩

/-- A call is never a broken invariant. -/
theorem answer_ne_illegalState (text : String) (source : Option InstantiationError) :
    t.answer handle s method args ≠ .error (.illegalState text source) := by
  rw [ne_eq, answer_eq_error_iff]
  rintro (hrefused | ⟨_, _, _, _, heq⟩)
  · -- A refused call names the method or the count, and a call that gets through fails as script
    -- errors do.
    rcases t.refused_of_slotFor hrefused with ⟨_, heq⟩ | ⟨_, _, heq⟩
    · cases heq
    · cases heq
  · cases heq

/-- Neither is a call by names. -/
theorem answerByName_ne_illegalState (interface name text : String)
    (source : Option InstantiationError) :
    t.answerByName handle s args interface name ≠ .error (.illegalState text source) := by
  rw [answerByName_eq]
  cases t.findMethod? interface name with
  | none => simp
  | some method => exact t.answer_ne_illegalState handle s method args text source

/-- A call by names raises what the call of the method that it finds raises. -/
theorem answerByName_eq_script_iff {interface name : String} {e : ScriptError} :
    t.answerByName handle s args interface name = .error (.script e) ↔
      ∃ method, t.findMethod? interface name = some method ∧
        t.answer handle s method args = .error (.script e) := by
  rw [answerByName_eq]
  cases t.findMethod? interface name <;> simp

end ProxyType

namespace Forwarding

variable {α σ ω : Type}
  (invoke : α → CallTarget → Option Payload → Method → List Value → StateM ω Invocation)
  (services : σ → Services (StateM ω)) (f : Forwarding α σ) (slot : Method) (args : List Value)

/-- The state after the warning about a method without script behaviour, if `f` warns. -/
def warned (s : ω) : ω :=
  if f.warns then (((services f.services).warn (undefinedMethodMessage slot.name)).run s).2 else s

/-- What raises `e` when a call of `slot` is forwarded as `f` says. -/
inductive Raises (s : ω) (e : ScriptError) : Prop
  | adapter (h : ((invoke f.adapter f.target f.payload slot args).run s).1 = .error e)
  /-- There is no script behaviour, and the engine makes no value of nothing. -/
  | coercion {s' : ω}
      (hunsupported : (invoke f.adapter f.target f.payload slot args).run s = (.notSupported, s'))
      (hvoid : slot.ret.isVoid = false)
      (h : (((services f.services).coerce slot.ret).run (f.warned services slot s')).1 = .error e)

/-- What a forwarded call comes to, by what the adapter answers. -/
theorem run_handle (s : ω) :
    (f.handle invoke services slot args).run s =
      match (invoke f.adapter f.target f.payload slot args).run s with
      | (.value v, s') => (.ok v, s')
      | (.error e, s') => (.error e, s')
      | (.notSupported, s') =>
        if slot.ret.isVoid then (.ok .null, f.warned services slot s')
        else ((services f.services).coerce slot.ret).run (f.warned services slot s') := by
  rw [Forwarding.handle, StateT.run_bind]
  rcases (invoke f.adapter f.target f.payload slot args).run s with ⟨v | _ | e, s'⟩
  · rfl
  · show ((services f.services).settle f.warns slot .notSupported).run s' = _
    unfold Services.settle warned
    cases f.warns <;> cases slot.ret.isVoid <;> rfl
  · rfl

/-- **Forwarded calls.** A handler of a bridge raises a script error iff the adapter answers it, or
    the engine raises it when it is to make a value of nothing. A warning raises none. -/
theorem handle_eq_error_iff {s : ω} {e : ScriptError} :
    ((f.handle invoke services slot args).run s).1 = .error e ↔
      f.Raises invoke services slot args s e := by
  rw [run_handle]
  constructor
  · intro h
    rcases hinvoke : (invoke f.adapter f.target f.payload slot args).run s with ⟨v | _ | e', s'⟩
    · rw [hinvoke] at h
      cases h
    · -- Without script behaviour only the coercion can raise, and a void method asks for none.
      cases hvoid : slot.ret.isVoid with
      | true =>
        rw [hinvoke, hvoid] at h
        cases h
      | false =>
        rw [hinvoke, hvoid] at h
        exact .coercion hinvoke hvoid h
    · rw [hinvoke] at h
      cases h
      exact .adapter (by rw [hinvoke])
  · rintro (h | ⟨hunsupported, hvoid, h⟩)
    · rcases hinvoke : (invoke f.adapter f.target f.payload slot args).run s with ⟨answer, s'⟩
      rw [hinvoke] at h
      cases h
      rfl
    · rw [hunsupported, hvoid]
      exact h

end Forwarding

/-! ### Handles and instances

Both are made of what a platform answers, which may be anything.
-/

/-- The handle that comes of what a platform answers when it is asked for a type. -/
def Platform.handleOf (p : Platform) (answer : Except ConstructionError ProxyType) :
    Except BridgeError Handle :=
  answer.mapError .construction >>= Handle.of p

/-- To build a handle is to ask the platform and to make a handle of its answer. -/
theorem Foundry.handleIn_eq (f : Foundry) (alive : Nat → Bool) (p : Platform) (d : Domain)
    (is : List Interface) :
    (f.handleIn alive p d is).1 = p.handleOf (f.proxyType alive p d is).1 := by
  unfold Foundry.handleIn Platform.handleOf
  rcases f.proxyType alive p d is with ⟨e | t, notes, f'⟩ <;> rfl

/-- Every handle comes of what a platform answers, but for a list without interfaces, which a platform
    is not asked about. -/
theorem Foundry.exists_handleOf (f : Foundry) (alive : Nat → Bool) (p : Platform)
    (o : HandleOrigin) : ∃ answer, (f.handleFrom alive p o).1 = p.handleOf answer := by
  cases o with
  | first is =>
    cases is with
    | nil => exact ⟨.error .emptyInterfaceSet, rfl⟩
    | cons i is => exact ⟨_, f.handleIn_eq alive p i.domain (i :: is)⟩
  | within d is => exact ⟨_, f.handleIn_eq alive p d is⟩
  | cls c => exact ⟨_, f.handleIn_eq alive p c.domain c.interfaces⟩

/-- Only a type without a constructor for handlers makes no handle. -/
theorem Handle.of_eq_error_iff (p : Platform) (t : ProxyType) {e : BridgeError} :
    Handle.of p t = .error e ↔
      t.constructor = none ∧ e = .illegalState (t.name ++ " has no handler constructor") none := by
  unfold Handle.of
  split
  next h =>
    have hsome : t.constructor ≠ none := fun hnone => by simp [hnone] at h
    simp [hsome]
  next h =>
    have hnone : t.constructor = none := by simpa using h
    simp [hnone, eq_comm]

namespace BridgeError

/-- A failure to make an instance is a script error iff the constructor raised it. -/
theorem ofInstantiation_eq_script_iff {t : ProxyType} {i : InstantiationError} {e : ScriptError} :
    ofInstantiation t i = .script e ↔ i = .raised e := by
  cases i <;> simp [ofInstantiation]

/-- Any other one is a broken invariant, with the failure behind it. -/
theorem ofInstantiation_eq_illegalState_iff {t : ProxyType} {i : InstantiationError} {text : String}
    {source : Option InstantiationError} :
    ofInstantiation t i = .illegalState text source ↔
      (∀ e, i ≠ .raised e) ∧ text = "cannot instantiate " ++ t.name ∧ source = some i := by
  cases i <;> simp [ofInstantiation, eq_comm]

/-- The broken invariants of instantiations are the failures for which no constructor is to blame. -/
theorem mapError_eq_illegalState_iff {β : Type} {t : ProxyType} {answer : Except InstantiationError β}
    {text : String} {source : Option InstantiationError} :
    answer.mapError (ofInstantiation t) = .error (.illegalState text source) ↔
      ∃ i, answer = .error i ∧ (∀ e, i ≠ .raised e) ∧ text = "cannot instantiate " ++ t.name ∧
        source = some i := by
  cases answer with
  | ok b => simp [Except.mapError]
  | error i =>
    show Except.error (ofInstantiation t i) = _ ↔ _
    rw [Except.error.injEq, ofInstantiation_eq_illegalState_iff]
    constructor
    · intro h
      exact ⟨i, rfl, h⟩
    · rintro ⟨i', hi, h⟩
      cases hi
      exact h

/-- The broken invariants of handles are types without a constructor for handlers. -/
theorem handleOf_eq_illegalState_iff {p : Platform} {answer : Except ConstructionError ProxyType}
    {text : String} {source : Option InstantiationError} :
    p.handleOf answer = .error (.illegalState text source) ↔
      ∃ t, answer = .ok t ∧ t.constructor = none ∧ text = t.name ++ " has no handler constructor" ∧
        source = none := by
  cases answer with
  | error e =>
    show Except.error (construction e) = _ ↔ _
    simp
  | ok t =>
    show Handle.of p t = _ ↔ _
    rw [Handle.of_eq_error_iff]
    simp

/-- The error is what an operation on a bridge or an instance comes to. Platforms, handlers and engines
    may answer anything. -/
inductive Produced : BridgeError → Prop
  | call {ω : Type} (t : ProxyType) (handle : Handler ω) (s : ω) (method : Method)
      (args : List Value) {e : BridgeError} (h : t.answer handle s method args = .error e) : Produced e
  | callByName {ω : Type} (t : ProxyType) (handle : Handler ω) (s : ω) (args : List Value)
      (interface name : String) {e : BridgeError}
      (h : t.answerByName handle s args interface name = .error e) : Produced e
  /-- A handle is built of a platform's answer. -/
  | handle (p : Platform) (answer : Except ConstructionError ProxyType) {e : BridgeError}
      (h : p.handleOf answer = .error e) : Produced e
  /-- An instance of `t` is made, or the platform says why not. -/
  | instantiate {β : Type} (t : ProxyType) (answer : Except InstantiationError β) {e : BridgeError}
      (h : answer.mapError (ofInstantiation t) = .error e) : Produced e

/-- Handles that are not built are errors of this kind, however they are asked for. -/
theorem produced_handleFrom (f : Foundry) (alive : Nat → Bool) (p : Platform) (o : HandleOrigin)
    {e : BridgeError} (h : (f.handleFrom alive p o).1 = .error e) : Produced e := by
  obtain ⟨answer, hanswer⟩ := f.exists_handleOf alive p o
  exact .handle p answer (hanswer.symm.trans h)

/-- So are instances that are not made through a handle. -/
theorem produced_instantiate {η : Type} (h : Handle) (handler : η) (next : Nat) {e : BridgeError}
    (he : (h.instantiate handler next).1 = .error e) : Produced e :=
  .instantiate h.type (h.platform.instantiate h.type handler next).1 he

/-- **Broken invariants.** There are two sorts: a handle on a type without a constructor, with nothing
    behind it, and a failure to make an instance for which no constructor is to blame, with that
    failure behind it. -/
theorem produced_illegalState_iff {text : String} {source : Option InstantiationError} :
    Produced (.illegalState text source) ↔
      (∃ t : ProxyType, t.constructor = none ∧ text = t.name ++ " has no handler constructor" ∧
        source = none) ∨
      ∃ (t : ProxyType) (i : InstantiationError), (∀ e, i ≠ .raised e) ∧
        text = "cannot instantiate " ++ t.name ∧ source = some i := by
  constructor
  · intro h
    cases h with
    | call t handle s method args h =>
      exact absurd h (t.answer_ne_illegalState handle s method args text source)
    | callByName t handle s args interface name h =>
      exact absurd h (t.answerByName_ne_illegalState handle s args interface name text source)
    | handle p answer h =>
      obtain ⟨t, -, ht⟩ := handleOf_eq_illegalState_iff.mp h
      exact .inl ⟨t, ht⟩
    | instantiate t answer h =>
      obtain ⟨i, -, hi⟩ := mapError_eq_illegalState_iff.mp h
      exact .inr ⟨t, i, hi⟩
  · rintro (⟨t, ht⟩ | ⟨t, i, hi⟩)
    · -- Both sorts do arise: some platform answers so.
      exact .handle .uncached (.ok t) (handleOf_eq_illegalState_iff.mpr ⟨t, rfl, ht⟩)
    · exact .instantiate t (.error i : Except InstantiationError Unit)
        (mapError_eq_illegalState_iff.mpr ⟨i, rfl, hi⟩)

/-- Where script errors come from, and what stands behind errors. -/
structure CauseLaws : Prop where
  /-- Behind the script error of a caller stands what was raised, and then its causes. -/
  behind : ∀ (e : ScriptError) (es : List Failure), Failure.Behind (.bridge (.script e)) es ↔
    es = .script e :: e.causes.map .script
  /-- Their texts are the text of what was raised and those of its causes, in this order, -/
  texts : ∀ (e : ScriptError) (es : List Failure), Failure.Behind (.bridge (.script e)) es →
    es.map Failure.message = e.message :: e.sources
  /-- and make it up. -/
  whole : ∀ e : ScriptError, .ofTexts e.message e.sources = e
  /-- Of any error, there is one list of what stands behind it, with the texts of its `sources`. -/
  sources : ∀ e : BridgeError, ∃ es, (∀ es', Failure.Behind (.bridge e) es' ↔ es' = es) ∧
    es.map Failure.message = e.sources
  /-- The script errors of a call are those that its handler raises, -/
  call : ∀ {ω : Type} (t : ProxyType) (handle : Handler ω) (s : ω) (method : Method)
    (args : List Value) (e : ScriptError), t.answer handle s method args = .error (.script e) ↔
      ∃ slot, t.slotFor method args.length = .ok slot ∧ ((handle slot args).run s).1 = .error e
  /-- also of a call by names. -/
  callByName : ∀ {ω : Type} (t : ProxyType) (handle : Handler ω) (s : ω) (args : List Value)
    (interface name : String) (e : ScriptError),
    t.answerByName handle s args interface name = .error (.script e) ↔
      ∃ method, t.findMethod? interface name = some method ∧
        t.answer handle s method args = .error (.script e)
  /-- The handler of a bridge raises what the adapter answers, or what the engine raises when there is
      no script behaviour and it makes no value of nothing. -/
  forwarded : ∀ {α σ ω : Type}
    (invoke : α → CallTarget → Option Payload → Method → List Value → StateM ω Invocation)
    (services : σ → Services (StateM ω)) (f : Forwarding α σ) (slot : Method) (args : List Value)
    (s : ω) (e : ScriptError), ((f.handle invoke services slot args).run s).1 = .error e ↔
      f.Raises invoke services slot args s e
  /-- The script errors of instantiations are those that constructors raise. -/
  instantiate : ∀ {β : Type} (t : ProxyType) (answer : Except InstantiationError β) (e : ScriptError),
    answer.mapError (ofInstantiation t) = .error (.script e) ↔ answer = .error (.raised e)
  /-- To make an instance through a handle is to ask the platform and to read its answer so. -/
  through : ∀ {η : Type} (h : Handle) (handler : η) (next : Nat),
    (h.instantiate handler next).1 =
      (h.platform.instantiate h.type handler next).1.mapError (ofInstantiation h.type)
  /-- Their other failures are broken invariants, with the failure behind them, -/
  unmade : ∀ {β : Type} (t : ProxyType) (answer : Except InstantiationError β) (text : String)
    (source : Option InstantiationError),
    answer.mapError (ofInstantiation t) = .error (.illegalState text source) ↔
      ∃ i, answer = .error i ∧ (∀ e, i ≠ .raised e) ∧ text = "cannot instantiate " ++ t.name ∧
        source = some i
  /-- and so is a missing constructor where a handle is built, with nothing behind it. -/
  unbuilt : ∀ (p : Platform) (answer : Except ConstructionError ProxyType) (text : String)
    (source : Option InstantiationError), p.handleOf answer = .error (.illegalState text source) ↔
      ∃ t, answer = .ok t ∧ t.constructor = none ∧ text = t.name ++ " has no handler constructor" ∧
        source = none
  /-- Handles and instances that were not made are errors of this kind. -/
  produced : (∀ (f : Foundry) (alive : Nat → Bool) (p : Platform) (o : HandleOrigin) (e : BridgeError),
      (f.handleFrom alive p o).1 = .error e → Produced e) ∧
    ∀ {η : Type} (h : Handle) (handler : η) (next : Nat) (e : BridgeError),
      (h.instantiate handler next).1 = .error e → Produced e
  /-- There are no other broken invariants. -/
  illegalState : ∀ (text : String) (source : Option InstantiationError),
    Produced (.illegalState text source) ↔
      (∃ t : ProxyType, t.constructor = none ∧ text = t.name ++ " has no handler constructor" ∧
        source = none) ∨
      ∃ (t : ProxyType) (i : InstantiationError), (∀ e, i ≠ .raised e) ∧
        text = "cannot instantiate " ++ t.name ∧ source = some i

/-- Script errors come from script code alone and reach the caller with all of their causes; no other
    error hides one. -/
theorem causeLaws : CauseLaws where
  behind e es := by
    have hbehind : Failure.Behind (.bridge (.script e)) (.script e :: e.causes.map .script) :=
      .next rfl (Failure.behind_script e)
    exact ⟨fun h => h.eq hbehind, fun h => h ▸ hbehind⟩
  texts _ _ h := h.texts
  whole := ScriptError.ofTexts_sources
  sources e := by
    obtain ⟨es, hes⟩ := Failure.exists_behind (.bridge e)
    exact ⟨es, fun es' => ⟨fun h => h.eq hes, fun h => h ▸ hes⟩, hes.texts⟩
  call t handle s method args _ := t.answer_eq_script_iff handle s method args
  callByName t handle s args _ _ _ := t.answerByName_eq_script_iff handle s args
  forwarded invoke services f slot args _ _ := f.handle_eq_error_iff invoke services slot args
  instantiate t answer e := by
    cases answer with
    | ok b => simp [Except.mapError]
    | error i =>
      show Except.error (ofInstantiation t i) = Except.error (script e) ↔ _
      rw [Except.error.injEq, Except.error.injEq, ofInstantiation_eq_script_iff]
  through _ _ _ := rfl
  unmade _ _ _ _ := mapError_eq_illegalState_iff
  unbuilt _ _ _ _ := handleOf_eq_illegalState_iff
  produced := ⟨fun f alive p o _ => produced_handleFrom f alive p o,
    fun h handler next _ => produced_instantiate h handler next⟩
  illegalState _ _ := produced_illegalState_iff

end BridgeError

end Interop
