import Mathlib.Data.List.Forall2
import Interop.Proofs.Calls
import Interop.Proofs.Conversation

namespace Interop

/-!
# What a caller's descriptor decides

Whoever calls by descriptor may have made the descriptor himself, with any declarer, any result and any
variadic flag. Nothing but its name and its parameters has a part in the call.

* `ProxyType.call_congr`, `Forwarding.dialogue_congr` — a call as a program, for any handler, depends on the
  signature only, and so does what a call asks.
* `Host.Move.Swapped`, `Host.Alike` — moves that differ in the descriptors of some calls; hosts that differ
  in nothing but these.
* `Host.Alike.step`, `Host.alike_run` — hosts that are alike stay alike, whatever else happens.
* `Method.indifferent` — hence two descriptors of one name and the same parameters are the same to all.

A caller's descriptor is used once in a call, to look a slot up, and the look-up compares signatures.
From there on the slot has the word. So two calls by descriptors of one signature are equal as
programs, and nothing needs to be known about handlers or monads to see it. In a run the calls leave
traces: what is seen of a call is compared without the descriptor, and then every move leads from
hosts that look alike to hosts that look alike, be it a call by one descriptor on the one side and by
the other on the other.
-/

/-! ### One call -/

/-- The signature is the name with the parameters. -/
theorem Method.signature_eq {method method' : Method} (hname : method.name = method'.name)
    (hparams : method.params = method'.params) : method.signature = method'.signature := by
  rw [signature, signature, hname, hparams]

variable {method method' : Method}

namespace ProxyType

variable (t : ProxyType)

/-- Which slot there is, and how its absence is worded, depends on the signature only. -/
theorem slotFor_congr (h : method.signature = method'.signature) (n : Nat) :
    t.slotFor method n = t.slotFor method' n := by
  unfold slotFor
  rw [h]

/-- So a call is one program for all descriptors of one signature. -/
theorem call_congr (h : method.signature = method'.signature) {m : Type → Type} [Monad m]
    (handle : Method → List Value → m (Except ScriptError Value)) (args : List Value) :
    t.call handle method args = t.call handle method' args := by
  unfold call
  rw [t.slotFor_congr h]

end ProxyType

/-- So it is with what a call of an instance that a bridge made asks, one question after the other. -/
theorem Forwarding.dialogue_congr {α σ : Type} (f : Forwarding α σ) (t : ProxyType)
    (h : method.signature = method'.signature) (args : List Value) :
    f.dialogue t method args = f.dialogue t method' args :=
  t.call_congr h _ args

/-! ### Runs -/

/-- What is seen of a call but for the caller's descriptor, of which the signature is left. -/
structure CallView (α σ : Type) where
  callee : Nat
  signature : Signature
  args : List Value
  exchanged : List (Exchange α σ)
  rest : Dialogue α σ (Except BridgeError Value)

/-- What is seen of a call but for what its descriptor says besides the signature. -/
def Call.view {α σ : Type} (c : Call α σ) : CallView α σ :=
  ⟨c.callee, c.method.signature, c.args, c.exchanged, c.rest⟩

/-- Calls that look the same take an answer in the same way. -/
theorem Call.view_hear {α σ : Type} {c c' : Call α σ} (h : c.view = c'.view)
    (answer : (q : Question α σ) → q.Answer) : (c.hear answer).view = (c'.hear answer).view := by
  obtain ⟨callee, method, args, exchanged, rest⟩ := c
  obtain ⟨callee', method', args', exchanged', rest'⟩ := c'
  simp only [view, CallView.mk.injEq] at h
  obtain ⟨rfl, hsig, rfl, rfl, rfl⟩ := h
  cases rest with
  | done r => simp only [hear, view, hsig]
  | ask q next => simp only [hear, view, hsig]

namespace Host

variable {α σ : Type}

/-- The moves are the same, or are calls that differ in their descriptors as told. -/
inductive Move.Swapped (method method' : Method) : Move α σ → Move α σ → Prop
  | same (m : Move α σ) : Swapped method method' m m
  | call (place : Nat) (args : List Value) :
      Swapped method method' (.call place method args) (.call place method' args)

/-- The hosts have the same process, made the same instances for the same bridges, and had the same calls,
    which asked the same, were answered the same and have the same left to do. -/
structure Alike (s s' : Host α σ) : Prop where
  process : s.process = s'.process
  made : s.made = s'.made
  calls : s.calls.map Call.view = s'.calls.map Call.view

variable {s s' : Host α σ}

/-- A host is like itself. -/
theorem Alike.refl (s : Host α σ) : s.Alike s :=
  ⟨rfl, rfl, rfl⟩

/-- To make an instance has nothing to do with calls. -/
theorem Alike.make (hs : s.Alike s') (h : Handle) (b : Bridge σ) (adapter : α) (target : CallTarget)
    (payload : Option Payload) :
    (s.make h b adapter target payload).Alike (s'.make h b adapter target payload) := by
  obtain ⟨hprocess, hmade, hcalls⟩ := hs
  simp only [Host.make, hprocess]
  generalize s'.process.instantiate h (b.forwarding adapter target payload) = r
  rcases r with ⟨e | p, process⟩
  · exact ⟨rfl, hmade, hcalls⟩
  · exact ⟨rfl, by rw [hmade], hcalls⟩

/-- Calls of one instance by descriptors of one signature begin alike. -/
theorem Alike.call (hs : s.Alike s') (hsig : method.signature = method'.signature)
    (p : Proxy (Forwarding α σ)) (args : List Value) :
    (s.call p method args).Alike (s'.call p method' args) := by
  refine ⟨hs.process, hs.made, ?_⟩
  simp only [Host.call, List.map_append, hs.calls, List.map_cons, List.map_nil, Call.view, hsig,
    p.handler.dialogue_congr p.type hsig args]

/-- An answer is taken alike. -/
theorem Alike.answer (hs : s.Alike s') (n : Nat) (answer : (q : Question α σ) → q.Answer) :
    (s.step (.answer n answer)).Alike (s'.step (.answer n answer)) := by
  -- The same number stands for calls that look the same, if it stands for one at all.
  have hn : (s.calls[n]?).map Call.view = (s'.calls[n]?).map Call.view := by
    rw [← List.getElem?_map, ← List.getElem?_map, hs.calls]
  simp only [Host.step]
  cases hc : s.calls[n]? with
  | none =>
    cases hc' : s'.calls[n]? with
    | none => exact hs
    | some c' => simp [hc, hc'] at hn
  | some c =>
    cases hc' : s'.calls[n]? with
    | none => simp [hc, hc'] at hn
    | some c' =>
      have hview : c.view = c'.view := by simpa [hc, hc'] using hn
      refine ⟨hs.process, hs.made, ?_⟩
      simp only [List.map_set, hs.calls, Call.view_hear hview answer]

/-- Hosts that are alike stay alike after a move, also after one that differs in the descriptor. -/
theorem Alike.step (hs : s.Alike s') (hsig : method.signature = method'.signature) {m m' : Move α σ}
    (hm : m.Swapped method method' m') : (s.step m).Alike (s'.step m') := by
  cases hm with
  | call place args =>
    simp only [Host.step, hs.process]
    split
    next p _ => exact hs.call hsig p args
    next => exact hs
  | same =>
    cases m with
    | process m => exact ⟨by simp only [Host.step, hs.process], hs.made, hs.calls⟩
    | make place b adapter target payload =>
      simp only [Host.step, hs.process]
      split
      next h _ => exact hs.make h b adapter target payload
      next => exact hs
    | call place called args =>
      simp only [Host.step, hs.process]
      split
      next p _ => exact hs.call rfl p args
      next => exact hs
    | answer n answer => exact hs.answer n answer

/-- Runs that differ in the descriptors of some calls lead to hosts that are alike. -/
theorem alike_run (hsig : method.signature = method'.signature) {ms ms' : List (Move α σ)}
    (hms : List.Forall₂ (Move.Swapped method method') ms ms') : (run ms).Alike (run ms') := by
  -- From any two hosts that are alike, so that the induction on the moves goes through.
  have hfold : ∀ s s' : Host α σ, s.Alike s' → (ms.foldl Host.step s).Alike (ms'.foldl Host.step s') := by
    induction hms with
    | nil => exact fun s s' hs => hs
    | cons hm _ ih => exact fun s s' hs => ih _ _ (hs.step hsig hm)
  exact hfold {} {} (.refl {})

end Host

/-! ### Descriptors of one signature -/

/-- It is the same for everybody whether `method` or `method'` is called. -/
structure Method.Indifferent (method method' : Method) : Prop where
  /-- A call is the same program, whatever type it is of and whatever the handler does. -/
  handled : ∀ (t : ProxyType) (m : Type → Type) [Monad m]
    (handle : Method → List Value → m (Except ScriptError Value)) (args : List Value),
    t.call handle method args = t.call handle method' args
  /-- On an instance that a bridge made, the same answers lead to the same next question, be it to the
      adapter, for a warning or for a value, or to the same result. -/
  forwarded : ∀ (α σ : Type) (t : ProxyType) (f : Forwarding α σ) (args : List Value)
    (es : List (Exchange α σ)) (d : Dialogue α σ (Except BridgeError Value)),
    (f.dialogue t method args).Reaches es d ↔ (f.dialogue t method' args).Reaches es d
  /-- Where calls of the one are put for calls of the other in a run, they leave no trace of it. -/
  runs : ∀ (α σ : Type) (ms ms' : List (Host.Move α σ)),
    List.Forall₂ (Host.Move.Swapped method method') ms ms' → (Host.run ms).Alike (Host.run ms')

/-- A caller's descriptor matters by its name and its parameters only. -/
theorem Method.indifferent (hname : method.name = method'.name)
    (hparams : method.params = method'.params) : Method.Indifferent method method' := by
  have hsig : method.signature = method'.signature := Method.signature_eq hname hparams
  refine ⟨fun t m _ handle args => t.call_congr hsig handle args, fun α σ t f args es d => ?_,
    fun α σ ms ms' hms => Host.alike_run hsig hms⟩
  rw [f.dialogue_congr t hsig]

namespace ProxyType.Loggers

/-- A descriptor like that of the second logger, with another declarer, a result and a fixed arity. -/
def forged : Method := ⟨"Forged", "log", [.array .string], .int, false⟩

/-- A call by the forged descriptor goes to the slot of the first logger, and asks for no int. -/
theorem indifferent_forged :
    log.name = forged.name ∧ log.params = forged.params ∧ Method.Indifferent log forged ∧
      both.slotFor forged 1 = .ok ⟨"Console", "log", [.array .string], .void, false⟩ :=
  have hname : log.name = forged.name := rfl
  have hparams : log.params = forged.params := rfl
  ⟨hname, hparams, Method.indifferent hname hparams, rfl⟩

end ProxyType.Loggers

end Interop
