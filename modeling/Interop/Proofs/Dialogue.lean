import Interop.Proxy.Dispatch

namespace Interop

/-!
# Dialogues

Between its start and its return a call asks the engine for things, one after the other: to invoke an
adapter, to take a warning, to make a value of no value. A dialogue is a computation that does nothing
else, with the answers left open.

* `Question`, `Dialogue` — what can be asked; a computation that asks.
* `Dialogue.interpret` — a dialogue with its questions put to the services of a monad.
* `Forwarding.dialogue` — a call as a dialogue; `Forwarding.call_eq_interpret` shows that the same
  call in any monad is this dialogue, interpreted.
* `Dialogue.Reaches`, `Dialogue.status` — where given answers lead, and what is seen there.
* `Conduct` — what a call may have asked and been answered, and what it does next;
  `Forwarding.conduct_of_reaches` shows that no call does anything else.

A call is written for any monad, and what can be said of it in one monad may fail in another.
Dialogues are the monad that does nothing but ask: with them a call is a tree of questions, one branch
an answer, and to say how a call goes is to say which paths the tree has. Interpretation carries this
over to every other monad, where the same questions are put to its own adapters and services. A path
is cut off after any question, since an engine may take as long as it likes to answer, or never do so.
-/

/-- What a call asks of the engine. -/
inductive Question (α σ : Type)
  | invoke (adapter : α) (target : CallTarget) (payload : Option Payload) (slot : Method)
      (args : List Value)
  | warn (services : σ) (message : String)
  | coerce (services : σ) (ty : Ty)

/-- What a question is answered with. -/
def Question.Answer {α σ : Type} : Question α σ → Type
  | invoke .. => Invocation
  | warn .. => Unit
  | coerce .. => Except ScriptError Value

/-- A question with its answer. -/
abbrev Exchange (α σ : Type) : Type :=
  (q : Question α σ) × q.Answer

/-- A computation that asks the engine for things. -/
inductive Dialogue (α σ β : Type)
  | done (result : β)
  | ask (q : Question α σ) (next : q.Answer → Dialogue α σ β)

/-- What is seen of a dialogue: a question that waits for an answer, or the result. -/
inductive Status (α σ β : Type)
  | asking (q : Question α σ)
  | returned (result : β)

namespace Dialogue

variable {α σ β γ : Type}

/-- One dialogue after the other. -/
def bind : Dialogue α σ β → (β → Dialogue α σ γ) → Dialogue α σ γ
  | done r, f => f r
  | ask q next, f => ask q fun a => (next a).bind f

instance : Monad (Dialogue α σ) where
  pure := done
  bind := bind

/-- Ask for a call of an adapter. -/
def invoke (adapter : α) (target : CallTarget) (payload : Option Payload) (slot : Method)
    (args : List Value) : Dialogue α σ Invocation :=
  ask (.invoke adapter target payload slot args) done

/-- Ask the services of a bridge. -/
def services (s : σ) : Services (Dialogue α σ) where
  warn message := ask (.warn s message) done
  coerce ty := ask (.coerce s ty) done

/-- The question that waits for an answer, or the result. -/
def status : Dialogue α σ β → Status α σ β
  | done r => .returned r
  | ask q _ => .asking q

/-- The answers in `es` lead from one dialogue to the other. -/
inductive Reaches : Dialogue α σ β → List (Exchange α σ) → Dialogue α σ β → Prop
  | start (d : Dialogue α σ β) : Reaches d [] d
  | answered {q : Question α σ} {next : q.Answer → Dialogue α σ β} (a : q.Answer)
      {es : List (Exchange α σ)} {d : Dialogue α σ β} (h : (next a).Reaches es d) :
      Reaches (ask q next) (⟨q, a⟩ :: es) d

/-- One more answer leads one question on. -/
theorem Reaches.snoc {d : Dialogue α σ β} {es : List (Exchange α σ)} {q : Question α σ}
    {next : q.Answer → Dialogue α σ β} (h : d.Reaches es (ask q next)) (a : q.Answer) :
    d.Reaches (es ++ [⟨q, a⟩]) (next a) := by
  generalize hd : ask q next = d' at h
  induction h with
  | start d =>
    subst hd
    exact .answered a (.start _)
  | answered b h ih => exact .answered b (ih hd)

/-! ### Interpretation

What a question is put to is one program a question. The order of the questions is that of the
dialogue, whatever the monad makes of them.
-/

variable {m : Type → Type} [Monad m]

/-- Put the questions of a dialogue to `answer`. -/
def interpret (answer : (q : Question α σ) → m q.Answer) : Dialogue α σ β → m β
  | done r => pure r
  | ask q next => do (next (← answer q)).interpret answer

/-- An engine of which adapters and services are programs of a monad. -/
def engine (invoke : α → CallTarget → Option Payload → Method → List Value → m Invocation)
    (services : σ → Services m) : (q : Question α σ) → m q.Answer
  | .invoke adapter target payload slot args => invoke adapter target payload slot args
  | .warn s message => (services s).warn message
  | .coerce s ty => (services s).coerce ty

end Dialogue

/-! ### Calls as dialogues

The tree of a call has at most three questions on a path: the adapter, the warning, and the value in
place of none. `Forwarding.settle` is what comes after the first of them.
-/

namespace ProxyType

variable (t : ProxyType) {m : Type → Type} [Monad m] {method : Method} {args : List Value}
  {handle : Method → List Value → m (Except ScriptError Value)}

/-- A call without a fitting slot does nothing. -/
theorem call_of_error {e : BridgeError} (h : t.slotFor method args.length = .error e) :
    t.call handle method args = pure (.error e) := by
  unfold call
  rw [h]

/-- A call with a fitting slot goes to the handler, whose errors are script errors. -/
theorem call_of_ok {slot : Method} (h : t.slotFor method args.length = .ok slot) :
    t.call handle method args = do return (← handle slot args).mapError .script := by
  unfold call
  rw [h]
  show handle slot args >>= _ = handle slot args >>= _
  congr 1
  funext r
  cases r <;> rfl

end ProxyType

namespace Forwarding

variable {α σ : Type} (f : Forwarding α σ) (t : ProxyType) (method : Method) (args : List Value)

/-- A call of an instance of `t` that captured `f`. -/
def dialogue : Dialogue α σ (Except BridgeError Value) :=
  t.call (f.handle Dialogue.invoke Dialogue.services) method args

/-- What is asked of the adapter. -/
def question (slot : Method) : Question α σ :=
  .invoke f.adapter f.target f.payload slot args

/-- What stands for a result where there is no script behaviour. -/
def substitute (slot : Method) : Dialogue α σ (Except BridgeError Value) :=
  if slot.ret.isVoid then .done (.ok .null)
  else .ask (.coerce f.services slot.ret) fun r => .done (r.mapError .script)

/-- How a call goes on after the adapter's answer. -/
def settle (slot : Method) : Invocation → Dialogue α σ (Except BridgeError Value)
  | .value v => .done (.ok v)
  | .error e => .done (.error (.script e))
  | .notSupported =>
    if f.warns then
      .ask (.warn f.services (undefinedMethodMessage slot.name)) fun _ => f.substitute slot
    else f.substitute slot

/-- A call is refused for lack of a fitting slot, or asks the adapter and settles its answer. -/
theorem dialogue_eq : f.dialogue t method args =
    match t.slotFor method args.length with
    | .error e => .done (.error e)
    | .ok slot => .ask (f.question args slot) (f.settle slot) := by
  unfold dialogue
  cases h : t.slotFor method args.length with
  | error e => exact t.call_of_error h
  | ok slot =>
    rw [t.call_of_ok h]
    -- Both sides ask the adapter first; what is left is to compare them for each of its answers.
    show Dialogue.ask (f.question args slot) _ = Dialogue.ask (f.question args slot) _
    congr 1
    funext a
    cases a with
    | value v => rfl
    | error e => rfl
    | notSupported =>
      show ((Dialogue.services f.services).settle f.warns slot .notSupported).bind _ =
        (if f.warns then _ else f.substitute slot)
      unfold Services.settle substitute
      cases f.warns <;> cases slot.ret.isVoid <;> rfl

section

variable {m : Type → Type} [Monad m] [LawfulMonad m]
  (invoke : α → CallTarget → Option Payload → Method → List Value → m Invocation)
  (services : σ → Services m)

/-- What stands for a result, put to the services of a monad. -/
theorem interpret_substitute (slot : Method) :
    ((if slot.ret.isVoid then pure (.ok .null) else (services f.services).coerce slot.ret) >>=
        fun r => pure (r.mapError .script)) =
      (f.substitute slot).interpret (Dialogue.engine invoke services) := by
  unfold substitute
  cases slot.ret.isVoid with
  | true => exact pure_bind _ _
  | false => rfl

/-- What is settled after an answer, put to the services of a monad. -/
theorem interpret_settle (slot : Method) (a : Invocation) :
    ((services f.services).settle f.warns slot a >>= fun r => pure (r.mapError .script)) =
      (f.settle slot a).interpret (Dialogue.engine invoke services) := by
  cases a with
  | value v => exact pure_bind _ _
  | error e => exact pure_bind _ _
  | notSupported =>
    unfold Services.settle settle
    cases f.warns with
    | true =>
      show ((services f.services).warn _ >>= fun _ => _) >>= _ = (services f.services).warn _ >>= _
      rw [bind_assoc]
      congr 1
      funext u
      exact f.interpret_substitute invoke services slot
    | false => exact f.interpret_substitute invoke services slot

/-- The call in any monad is its dialogue, with the questions put to the adapters and services of that
    monad. -/
theorem call_eq_interpret : t.call (f.handle invoke services) method args =
    (f.dialogue t method args).interpret (Dialogue.engine invoke services) := by
  rw [dialogue_eq]
  cases h : t.slotFor method args.length with
  | error e => exact t.call_of_error h
  | ok slot =>
    rw [t.call_of_ok h]
    -- Both sides call the adapter first, with the same five things.
    show (invoke _ _ _ _ _ >>= _) >>= _ = invoke _ _ _ _ _ >>= _
    rw [bind_assoc]
    congr 1
    funext a
    exact f.interpret_settle invoke services slot a

end

/-- The exchange in which the warning about a slot is taken. -/
def warning (slot : Method) : Exchange α σ :=
  ⟨.warn f.services (undefinedMethodMessage slot.name), ()⟩

/-- One warning if warnings are on, and none otherwise. -/
def warnings (slot : Method) : List (Exchange α σ) :=
  if f.warns then [f.warning slot] else []

end Forwarding

/-! ### How calls go

Here the paths are listed, each with what is seen at its end. The lists are about what was asked and
answered only; neither dialogues nor monads occur in them.
-/

variable {α σ : Type}

/-- What a call that is forwarded to the adapter as `f` says, with `args` for `slot`, may have asked
    and been answered, and what it does next. -/
inductive Forwarded (f : Forwarding α σ) (slot : Method) (args : List Value) :
    List (Exchange α σ) → Status α σ (Except BridgeError Value) → Prop
  | calling : Forwarded f slot args [] (.asking (.invoke f.adapter f.target f.payload slot args))
  | value (v : Value) : Forwarded f slot args [⟨f.question args slot, .value v⟩] (.returned (.ok v))
  | error (e : ScriptError) :
      Forwarded f slot args [⟨f.question args slot, .error e⟩] (.returned (.error (.script e)))
  | warning (hwarns : f.warns = true) :
      Forwarded f slot args [⟨f.question args slot, .notSupported⟩]
        (.asking (.warn f.services (undefinedMethodMessage slot.name)))
  | void (hvoid : slot.ret.isVoid = true) :
      Forwarded f slot args (⟨f.question args slot, .notSupported⟩ :: f.warnings slot)
        (.returned (.ok .null))
  | coercing (hvoid : slot.ret.isVoid = false) :
      Forwarded f slot args (⟨f.question args slot, .notSupported⟩ :: f.warnings slot)
        (.asking (.coerce f.services slot.ret))
  | coerced (hvoid : slot.ret.isVoid = false) (r : Except ScriptError Value) :
      Forwarded f slot args
        (⟨f.question args slot, .notSupported⟩ :: f.warnings slot ++
          [⟨.coerce f.services slot.ret, r⟩])
        (.returned (r.mapError .script))

/-- What a call of `method` with `args` on an instance of `t` that captured `f` may have asked and
    been answered, and what it does next. -/
inductive Conduct (t : ProxyType) (f : Forwarding α σ) (method : Method) (args : List Value) :
    List (Exchange α σ) → Status α σ (Except BridgeError Value) → Prop
  | noSlot (hslot : t.table.resolve method.signature = none) :
      Conduct t f method args []
        (.returned (.error (.noSuchMethod t.name method.signature.text)))
  | arity {slot : Method} (hslot : t.table.resolve method.signature = some slot)
      (hargs : slot.admits args.length = false) :
      Conduct t f method args []
        (.returned (.error
          (.arityMismatch slot.signature.text slot.params.length args.length)))
  | forwarded {slot : Method} (hslot : t.table.resolve method.signature = some slot)
      (hargs : slot.admits args.length = true) {es : List (Exchange α σ)}
      {st : Status α σ (Except BridgeError Value)} (h : Forwarded f slot args es st) :
      Conduct t f method args es st

/-- A call that was answered three questions has returned. -/
theorem Conduct.returned_of_length {t : ProxyType} {f : Forwarding α σ} {method : Method}
    {args : List Value} {es : List (Exchange α σ)} {st : Status α σ (Except BridgeError Value)}
    (h : Conduct t f method args es st) (hl : 3 ≤ es.length) : ∃ r, st = .returned r := by
  have hwarnings : ∀ slot, (f.warnings slot).length ≤ 1 := by
    intro slot
    unfold Forwarding.warnings
    split <;> simp
  cases h with
  | noSlot hslot => exact ⟨_, rfl⟩
  | arity hslot hargs => exact ⟨_, rfl⟩
  | @forwarded slot hslot hargs _ _ h =>
    cases h with
    | calling => simp at hl
    | value v => exact ⟨_, rfl⟩
    | error e => exact ⟨_, rfl⟩
    | warning hwarns => simp at hl
    | void hvoid => exact ⟨_, rfl⟩
    -- Before this question at most two were answered, that to the adapter and the warning.
    | coercing hvoid =>
      have := hwarnings slot
      rw [List.length_cons] at hl
      omega
    | coerced hvoid r => exact ⟨_, rfl⟩

namespace Forwarding

variable {f : Forwarding α σ} {slot : Method} {args : List Value} {es : List (Exchange α σ)}
  {d : Dialogue α σ (Except BridgeError Value)}

/-- Nothing follows a result. -/
theorem reaches_done {r : Except BridgeError Value} (h : (Dialogue.done r).Reaches es d) :
    es = [] ∧ d = .done r := by
  cases h
  exact ⟨rfl, rfl⟩

/-- After the adapter's answer and the warnings, what is left is to make a value of no value. -/
theorem forwarded_of_substitute (h : (f.substitute slot).Reaches es d) :
    Forwarded f slot args (⟨f.question args slot, .notSupported⟩ :: f.warnings slot ++ es)
      d.status := by
  unfold substitute at h
  cases hvoid : slot.ret.isVoid with
  | true =>
    rw [hvoid, if_pos rfl] at h
    obtain ⟨rfl, rfl⟩ := reaches_done h
    rw [List.append_nil]
    exact .void hvoid
  | false =>
    rw [hvoid, if_neg Bool.false_ne_true] at h
    cases h with
    | start =>
      rw [List.append_nil]
      exact .coercing hvoid
    | answered r h =>
      obtain ⟨rfl, rfl⟩ := reaches_done h
      exact .coerced hvoid r

/-- What a call does once the adapter has answered. -/
theorem forwarded_of_settle {a : Invocation} (h : (f.settle slot a).Reaches es d) :
    Forwarded f slot args (⟨f.question args slot, a⟩ :: es) d.status := by
  cases a with
  | value v =>
    obtain ⟨rfl, rfl⟩ := reaches_done h
    exact .value v
  | error e =>
    obtain ⟨rfl, rfl⟩ := reaches_done h
    exact .error e
  | notSupported =>
    have hsubstitute : ∀ es', (f.substitute slot).Reaches es' d → Forwarded f slot args
        (⟨f.question args slot, .notSupported⟩ :: f.warnings slot ++ es') d.status :=
      fun _ => forwarded_of_substitute
    unfold settle at h
    unfold warnings at hsubstitute
    cases hwarns : f.warns with
    | true =>
      rw [hwarns, if_pos rfl] at h
      -- The warning is asked before anything else, and its answer says nothing.
      cases h with
      | start => exact .warning hwarns
      | answered u h =>
        rw [hwarns, if_pos rfl] at hsubstitute
        exact hsubstitute _ h
    | false =>
      rw [hwarns, if_neg Bool.false_ne_true] at h hsubstitute
      exact hsubstitute _ h

/-- A call goes in one of the listed ways, whatever the engine answers. -/
theorem conduct_of_reaches {t : ProxyType} {method : Method}
    (h : (f.dialogue t method args).Reaches es d) : Conduct t f method args es d.status := by
  rw [dialogue_eq] at h
  unfold ProxyType.slotFor at h
  cases hslot : t.table.resolve method.signature with
  | none =>
    rw [hslot] at h
    obtain ⟨rfl, rfl⟩ := reaches_done h
    exact .noSlot hslot
  | some slot =>
    rw [hslot] at h
    -- The argument count is checked against the slot before anything is asked.
    cases hargs : slot.admits args.length with
    | false =>
      simp only [hargs, Bool.false_eq_true, if_false] at h
      obtain ⟨rfl, rfl⟩ := reaches_done h
      exact .arity hslot hargs
    | true =>
      simp only [hargs, if_true] at h
      refine .forwarded hslot hargs ?_
      cases h with
      | start => exact .calling
      | answered a h => exact forwarded_of_settle h

end Forwarding

end Interop
