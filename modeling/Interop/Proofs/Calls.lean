import Interop.Proofs.Acceptance
import Interop.Proofs.Dialogue
import Interop.Proofs.Flattening

namespace Interop

/-!
# What callers get back

A call of a proxy is refused by its type, or goes to the handler of the instance. Handlers are taken
here as machines with a hidden state of any type.

* `Method.Takes` — the argument counts that a declaration announces.
* `ProxyType.answer`, `ProxyType.answerByName` — what a call by descriptor and a call by names come to;
  `ProxyType.answer_eq`, `ProxyType.answerByName_eq` say how.
* `ProxyType.arityRefused_iff`, `ProxyType.methodRefused_iff` — when a call is refused for its argument
  count, and when for want of a slot.
* `ProxyType.Synthesized.exists_owner_of_declared` — the argument counts of a declared method are those
  of the first declaration of its signature.
* `ProxyType.Synthesized.reachedByName` — a declared method is reached by its names iff the first
  interface of that name has a method of that name.

Between the caller and the handler there is the table: a call has the slot of its signature or none,
and the slot belongs to the first declaration of the signature. So what the caller gets back without
the handler is decided by the first declaration, whatever the called one says of itself, and the
theorems here say exactly when the two agree. By names it is the first interface of the name that is
searched, with the same consequence for the ones behind it.
-/

/-! ### Argument counts -/

/-- The argument counts that a declaration announces: as many as it has parameters, or, if it is
    variadic, at least its parameters less one. -/
def Method.Takes (m : Method) (n : Nat) : Prop :=
  if m.variadic then m.params.length - 1 ≤ n else n = m.params.length

/-- The check of a slot is for what the declaration announces. -/
theorem Method.admits_eq_true_iff (m : Method) (n : Nat) : m.admits n = true ↔ m.Takes n := by
  unfold admits Takes
  cases m.variadic with
  | false => simp
  | true =>
    simp only [if_true, decide_eq_true_eq]
    omega

/-- Declarations with equally many parameters announce the same counts iff both are variadic or
    neither is. -/
theorem Method.takes_iff_takes_iff {m m' : Method} (h : m.params.length = m'.params.length) :
    (∀ n, m.Takes n ↔ m'.Takes n) ↔ m.variadic = m'.variadic := by
  constructor
  · intro hall
    -- One argument more than there are parameters is taken by variadic declarations only.
    have hmore := hall (m.params.length + 1)
    unfold Takes at hmore
    cases hm : m.variadic <;> cases hm' : m'.variadic <;> simp [hm, hm'] at hmore ⊢ <;> omega
  · intro heq n
    rw [Takes, Takes, heq, h]

/-! ### Answers -/

/-- A handler with a hidden state. -/
abbrev Handler (σ : Type) : Type :=
  Method → List Value → StateM σ (Except ScriptError Value)

/-- The call was refused for its argument count. -/
def ArityRefused (r : Except BridgeError Value) : Prop :=
  ∃ text expected got, r = .error (.arityMismatch text expected got)

/-- The call was refused because there is no such method. -/
def MethodRefused (r : Except BridgeError Value) : Prop :=
  ∃ proxy text, r = .error (.noSuchMethod proxy text)

/-- What a handler gives back is never a refusal. -/
theorem not_refused_of_handler (r : Except ScriptError Value) :
    ¬ ArityRefused (r.mapError .script) ∧ ¬ MethodRefused (r.mapError .script) := by
  cases r <;> simp [ArityRefused, MethodRefused, Except.mapError]

namespace ProxyType

variable (t : ProxyType) {σ : Type} (handle : Handler σ) (s : σ) (method : Method)
  (args : List Value)

/-- What a caller gets back from a call, with the handler in state `s`. -/
def answer : Except BridgeError Value :=
  ((t.call handle method args).run s).1

/-- What a caller gets back from a call by the names of an interface and a method. -/
def answerByName (interface name : String) : Except BridgeError Value :=
  ((t.callByName handle interface name args).run s).1

/-- A call is refused for lack of a fitting slot, or the handler answers it. -/
theorem answer_eq :
    t.answer handle s method args =
      match t.slotFor method args.length with
      | .error e => .error e
      | .ok slot => ((handle slot args).run s).1.mapError .script := by
  unfold answer
  cases h : t.slotFor method args.length with
  | error e =>
    rw [t.call_of_error h]
    rfl
  | ok slot =>
    rw [t.call_of_ok h]
    rfl

/-- A call by names is a call of the method that was found. -/
theorem answerByName_eq (interface name : String) :
    t.answerByName handle s args interface name =
      match t.findMethod? interface name with
      | none => .error (.noSuchMethod t.name (interface ++ "." ++ name))
      | some method => t.answer handle s method args := by
  unfold answerByName callByName
  cases t.findMethod? interface name <;> rfl

/-- A call is refused for its argument count iff there is a slot which does not take that many. -/
theorem arityRefused_iff :
    ArityRefused (t.answer handle s method args) ↔
      ∃ slot, t.table.resolve method.signature = some slot ∧ ¬ slot.Takes args.length := by
  -- An answer of the handler is at worst an error of the script, so only the slot matters.
  rw [answer_eq, slotFor]
  cases hslot : t.table.resolve method.signature with
  | none => simp [ArityRefused]
  | some slot =>
    simp only [← Method.admits_eq_true_iff, Option.some.injEq, exists_eq_left']
    cases slot.admits args.length with
    | true => simpa using (not_refused_of_handler _).1
    | false => simp [ArityRefused]

/-- A call is refused for want of a method iff there is no slot. -/
theorem methodRefused_iff :
    MethodRefused (t.answer handle s method args) ↔ t.table.resolve method.signature = none := by
  rw [answer_eq, slotFor]
  cases hslot : t.table.resolve method.signature with
  | none => simp [MethodRefused]
  | some slot =>
    cases hargs : slot.admits args.length with
    | true => simpa [hargs] using (not_refused_of_handler _).2
    | false => simp [MethodRefused, hargs]

/-! ### Declared methods -/

/-- By the name of an interface of the type no method is found iff the first interface of that name
    has none of that name. -/
theorem findMethod?_eq_none_iff {i : Interface} (hi : i ∈ t.interfaces) (name : String) :
    t.findMethod? i.name name = none ↔
      ∃ before first after, t.interfaces = before ++ first :: after ∧ first.name = i.name ∧
        (∀ j ∈ before, j.name ≠ i.name) ∧ ∀ m ∈ first.methods, m.name ≠ name := by
  -- The interface has the name itself, so there is a first one of that name.
  obtain ⟨first, hfirst⟩ : ∃ first, t.interfaces.find? (·.name == i.name) = some first := by
    apply Option.isSome_iff_exists.mp
    rw [List.find?_isSome]
    exact ⟨i, hi, by simp⟩
  have hnone : t.findMethod? i.name name = none ↔ ∀ m ∈ first.methods, m.name ≠ name := by
    simp [findMethod?, hfirst, Interface.find?]
  rw [hnone]
  constructor
  · intro hno
    obtain ⟨hname, before, after, his, hbefore⟩ := List.find?_eq_some_iff_append.mp hfirst
    exact ⟨before, first, after, his, by simpa using hname, by simpa using hbefore, hno⟩
  · rintro ⟨before, first', after, his, hname, hbefore, hno⟩
    have hfirst' : t.interfaces.find? (·.name == i.name) = some first' :=
      List.find?_eq_some_iff_append.mpr
        ⟨by simpa using hname, before, after, his, by simpa using hbefore⟩
    rw [hfirst] at hfirst'
    rwa [Option.some.inj hfirst']

namespace Synthesized

variable {t}

/-- A declared method has a slot: the first declaration of its signature. -/
theorem exists_slot (ht : t.Synthesized) {i : Interface} (hi : i ∈ t.interfaces) {m : Method}
    (hm : m ∈ i.methods) :
    ∃ owner, DispatchTable.first? (DispatchTable.declarations t.interfaces) m.signature = some owner ∧
      t.table.resolve m.signature = some owner := by
  obtain ⟨owner, howner⟩ := Option.isSome_iff_exists.mp
    ((DispatchTable.isSome_resolve_iff ht.build m.signature).mpr ⟨i, hi, m, hm, rfl⟩)
  exact ⟨owner, (DispatchTable.resolve_of_build ht.build _) ▸ howner, howner⟩

/-- What is found by names is declared, so a call by names is refused for want of a method only where
    nothing is found. -/
theorem methodRefused_answerByName_iff (ht : t.Synthesized) (interface name : String) :
    MethodRefused (t.answerByName handle s args interface name) ↔
      t.findMethod? interface name = none := by
  rw [answerByName_eq]
  cases hfound : t.findMethod? interface name with
  | none => simp [MethodRefused]
  | some m =>
    obtain ⟨i, hi, hm⟩ := Option.bind_eq_some_iff.mp hfound
    obtain ⟨owner, -, howner⟩ :=
      ht.exists_slot (List.mem_of_find?_eq_some hi) (List.mem_of_find?_eq_some hm)
    simp [methodRefused_iff, howner]

/-! ### Who decides the argument count -/

/-- The declaration `owner` decides which calls of `m` are refused for their argument count. -/
structure Owner (t : ProxyType) (m owner : Method) : Prop where
  /-- It is the first declaration of the signature, in the order of the interfaces. -/
  comes : DispatchTable.first? (DispatchTable.declarations t.interfaces) m.signature = some owner
  /-- A call is refused iff the owner does not take that many arguments. -/
  decides : ∀ (σ : Type) (handle : Handler σ) (s : σ) (args : List Value),
    ArityRefused (t.answer handle s m args) ↔ ¬ owner.Takes args.length
  /-- What `m` itself announces decides for all argument lists iff it is variadic as the owner is. -/
  honours : (∀ (σ : Type) (handle : Handler σ) (s : σ) (args : List Value),
    ArityRefused (t.answer handle s m args) ↔ ¬ m.Takes args.length) ↔ m.variadic = owner.variadic

/-- For every declared method the first declaration of its signature decides. -/
theorem exists_owner_of_declared (ht : t.Synthesized) {i : Interface} (hi : i ∈ t.interfaces)
    {m : Method} (hm : m ∈ i.methods) : ∃ owner, Owner t m owner := by
  obtain ⟨owner, hfirst, hslot⟩ := ht.exists_slot hi hm
  have hdecides : ∀ (σ : Type) (handle : Handler σ) (s : σ) (args : List Value),
      ArityRefused (t.answer handle s m args) ↔ ¬ owner.Takes args.length := by
    intro σ handle s args
    simp [arityRefused_iff, hslot]
  -- The two have one signature, and can differ in their arity only by the variadic flag.
  have hparams : m.params.length = owner.params.length := by
    have hsig := DispatchTable.signature_of_first? hfirst
    exact congrArg (·.params.length) hsig.symm
  refine ⟨owner, hfirst, hdecides, ?_⟩
  rw [← Method.takes_iff_takes_iff hparams]
  constructor
  · intro hown n
    -- A handler that always answers null, called with `n` arguments, tells the two apart.
    have h := hown Unit (fun _ _ => pure (.ok .null)) () (List.replicate n .null)
    rw [hdecides, List.length_replicate] at h
    exact (not_iff_not.mp h).symm
  · intro hsame σ handle s args
    rw [hdecides, hsame]

end Synthesized

namespace Loggers

/-- A descriptor that logs texts: one list of them, or any number. -/
def logging (name : String) (variadic : Bool) (serial : Nat) : Interface :=
  ((Interface.new name (.root 1 "app") .interface).declare
    ⟨name, "log", [.array .string], .void, variadic⟩).build serial

/-- Two descriptors that log texts, of which only the second takes any number. -/
def both : ProxyType where
  id := 0
  domain := .root 1 "app"
  interfaces := [logging "Console" false 1, logging "Logger" true 2]
  table := .push .empty ⟨"Console", "log", [.array .string], .void, false⟩ rfl
  constructor := some {}

/-- The two declarations agree in their result, so there is a table. -/
theorem synthesized_both : both.Synthesized :=
  synthesize_eq_ok_iff.mpr
    ⟨⟨by decide, by decide, by decide, by decide, by decide⟩, by rfl, rfl⟩

/-- The method of the second descriptor. -/
def log : Method := ⟨"Logger", "log", [.array .string], .void, true⟩

/-- The first descriptor owns the slot of the second one. -/
theorem exists_owner_log :
    both.Synthesized ∧ logging "Logger" true 2 ∈ both.interfaces ∧
      log ∈ (logging "Logger" true 2).methods ∧ ∃ owner, Synthesized.Owner both log owner :=
  have hi : logging "Logger" true 2 ∈ both.interfaces := by decide
  have hm : log ∈ (logging "Logger" true 2).methods := by decide
  ⟨synthesized_both, hi, hm, synthesized_both.exists_owner_of_declared hi hm⟩

/-- The second descriptor takes a call without arguments, and the call is refused for their count. -/
theorem variadic_log_refused :
    both.Synthesized ∧ logging "Logger" true 2 ∈ both.interfaces ∧
      log ∈ (logging "Logger" true 2).methods ∧ log.Takes 0 ∧
      ArityRefused (both.answer (fun _ _ => pure (.ok .null)) () log []) :=
  ⟨synthesized_both, by decide, by decide, by simp [Method.Takes, log], _, _, _, rfl⟩

end Loggers

/-! ### Which methods are reached by name -/

namespace Synthesized

variable {t}

/-- When a call of `m` by the names of its interface `i` and itself finds no method. -/
structure ReachedByName (t : ProxyType) (i : Interface) (m : Method) : Prop where
  /-- It finds none iff the first interface of that name has no method of that name. -/
  refused : ∀ (σ : Type) (handle : Handler σ) (s : σ) (args : List Value),
    MethodRefused (t.answerByName handle s args i.name m.name) ↔
      ∃ before first after, t.interfaces = before ++ first :: after ∧ first.name = i.name ∧
        (∀ j ∈ before, j.name ≠ i.name) ∧ ∀ m' ∈ first.methods, m'.name ≠ m.name
  /-- It always finds one if no other interface of the type has the name. -/
  unique : (∀ j ∈ t.interfaces, j.name = i.name → j = i) →
    ∀ (σ : Type) (handle : Handler σ) (s : σ) (args : List Value),
      ¬ MethodRefused (t.answerByName handle s args i.name m.name)

/-- Every declared method is reached by name as far as the first interface of the name goes. -/
theorem reachedByName (ht : t.Synthesized) {i : Interface} (hi : i ∈ t.interfaces) {m : Method}
    (hm : m ∈ i.methods) : ReachedByName t i m := by
  have hrefused : ∀ (σ : Type) (handle : Handler σ) (s : σ) (args : List Value),
      MethodRefused (t.answerByName handle s args i.name m.name) ↔
        ∃ before first after, t.interfaces = before ++ first :: after ∧ first.name = i.name ∧
          (∀ j ∈ before, j.name ≠ i.name) ∧ ∀ m' ∈ first.methods, m'.name ≠ m.name := by
    intro σ handle s args
    rw [ht.methodRefused_answerByName_iff, t.findMethod?_eq_none_iff hi]
  refine ⟨hrefused, fun hunique σ handle s args => ?_⟩
  rw [hrefused]
  rintro ⟨before, first, after, his, hname, -, hno⟩
  -- The first interface of the name is the one that declares the method.
  obtain rfl := hunique first (by simp [his]) hname
  exact hno m hm rfl

end Synthesized

namespace Versions

/-- A version of a descriptor with one method. -/
def version (method : String) (serial : Nat) : Interface :=
  ((Interface.new "Api" (.root 1 "app") .interface).declare
    ⟨"Api", method, [], .void, false⟩).build serial

/-- Two versions of a descriptor in one type. -/
def both : ProxyType where
  id := 0
  domain := .root 1 "app"
  interfaces := [version "open" 1, version "close" 2]
  table := .push (.push .empty ⟨"Api", "open", [], .void, false⟩ rfl) ⟨"Api", "close", [], .void, false⟩ rfl
  constructor := some {}

/-- The two versions have different methods, so there is a table. -/
theorem synthesized_both : both.Synthesized :=
  synthesize_eq_ok_iff.mpr
    ⟨⟨by decide, by decide, by decide, by decide, by decide⟩, by rfl, rfl⟩

/-- The method of the second version. -/
def close : Method := ⟨"Api", "close", [], .void, false⟩

/-- Of the two versions only the first is searched. -/
theorem reachedByName_close :
    both.Synthesized ∧ version "close" 2 ∈ both.interfaces ∧ close ∈ (version "close" 2).methods ∧
      Synthesized.ReachedByName both (version "close" 2) close :=
  have hi : version "close" 2 ∈ both.interfaces := by decide
  have hm : close ∈ (version "close" 2).methods := by decide
  ⟨synthesized_both, hi, hm, synthesized_both.reachedByName hi hm⟩

/-- The second version declares the method, and a call by its names finds none. -/
theorem close_not_found :
    both.Synthesized ∧ version "close" 2 ∈ both.interfaces ∧ close ∈ (version "close" 2).methods ∧
      MethodRefused (both.answerByName (fun _ _ => pure (.ok .null)) () [] "Api" "close") :=
  ⟨synthesized_both, by decide, by decide, _, _, rfl⟩

end Versions

end ProxyType

end Interop
