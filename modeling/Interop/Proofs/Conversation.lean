import Mathlib.Data.List.Permutation
import Interop.Proofs.Dialogue
import Interop.Proofs.Instances
import Interop.Proofs.Numbering

namespace Interop

/-!
# Conversations

Instances made by bridges are called while types, handles and instances come and go. Calls may be
nested in each other or go on side by side, and the engine answers what they ask in any order and in
any way.

* `Making`, `Call`, `Host` — what a bridge was given when it made an instance; a call so far; a process
  with all that was made and all calls.
* `Host.Move`, `Host.step`, `Host.run` — what can happen, and any sequence of it from the start.
* `Host.Effect`, `Host.effect_step` — the four things that a move can make of a host.
* `Host.Sound` — the invariant: an instance has what it was given when it was made, and a call is where
  the answers so far have led it; `Host.Sound.run` — it holds after every run.
* `Host.exists_move_of_run` — what holds after a run and not at the start, some move brought about; so
  every making and every call goes back to the move that asked for it.
* `Host.ConductLaws`, `Host.conduct_run` — hence calls on an instance made by a bridge go as `Conduct`
  lists, with what the move that made it gave.

A call keeps the dialogue that is left of it, which no one can look into, so the invariant says of it
only that the exchanged answers have led there from the start. What that means in questions and
results is read off once, by `Forwarding.conduct_of_reaches`. The instance itself may be gone by the
time a call on it is answered: its number stands for it, and no number is given twice.
-/

/-- What a bridge was given when it made an instance, with the number of the instance. -/
structure Making (α σ : Type) where
  number : Nat
  bridge : Bridge σ
  handle : Handle
  adapter : α
  target : CallTarget
  /-- The owner and the binding slots of a composite. -/
  payload : Option Payload

/-- What the instance is to forward its calls with: what was given when it was made, the services of
    the bridge that made it, and whether this bridge warns. -/
def Making.forwarding {α σ : Type} (m : Making α σ) : Forwarding α σ where
  target := m.target
  payload := m.payload
  adapter := m.adapter
  services := m.bridge.services
  warns := m.bridge.config.warnUnsupported

/-- A call that was begun. -/
structure Call (α σ : Type) where
  /-- The number of the called instance. -/
  callee : Nat
  method : Method
  args : List Value
  /-- What was asked and answered so far. -/
  exchanged : List (Exchange α σ)
  /-- What is left of the call. -/
  rest : Dialogue α σ (Except BridgeError Value)

/-- What was called, and with what. -/
def Call.head {α σ : Type} (c : Call α σ) : Nat × Method × List Value :=
  (c.callee, c.method, c.args)

/-- The call after the answer to its question, if it waits for one. -/
def Call.hear {α σ : Type} (c : Call α σ) (answer : (q : Question α σ) → q.Answer) : Call α σ :=
  match c.rest with
  | .done _ => c
  | .ask q next => { c with exchanged := c.exchanged ++ [⟨q, answer q⟩], rest := next (answer q) }

/-- A process with the instances that bridges made in it, and the calls that were begun. -/
structure Host (α σ : Type) where
  process : Process (Forwarding α σ) := {}
  made : List (Making α σ) := []
  calls : List (Call α σ) := []

namespace Host

variable {α σ : Type}

/-- What can happen. A place is a position among the references in circulation. -/
inductive Move (α σ : Type)
  /-- A move of the process, which includes to make instances without a bridge. -/
  | process (m : Interop.Move (Forwarding α σ))
  /-- Make an instance through the handle at a place, a composite if there is a payload. -/
  | make (place : Nat) (b : Bridge σ) (adapter : α) (target : CallTarget) (payload : Option Payload)
  /-- Call the instance at a place. -/
  | call (place : Nat) (method : Method) (args : List Value)
  /-- Answer the question of a call in some way. -/
  | answer (call : Nat) (answer : (q : Question α σ) → q.Answer)

variable (s : Host α σ)

/-- Make an instance through `h`. -/
def make (h : Handle) (b : Bridge σ) (adapter : α) (target : CallTarget)
    (payload : Option Payload) : Host α σ :=
  let (r, process) := s.process.instantiate h (b.forwarding adapter target payload)
  match r with
  | .error _ => { s with process }
  | .ok p => { s with process, made := ⟨p.id, b, h, adapter, target, payload⟩ :: s.made }

/-- Begin a call of `p`. -/
def call (p : Proxy (Forwarding α σ)) (method : Method) (args : List Value) : Host α σ :=
  { s with calls := s.calls ++ [⟨p.id, method, args, [], p.handler.dialogue p.type method args⟩] }

/-- The host after a move. A move to a place without a fitting reference does nothing. -/
def step : Move α σ → Host α σ
  | .process m => { s with process := s.process.step m }
  | .make place b adapter target payload =>
    match s.process.refs[place]? with
    | some (.handle h) => s.make h b adapter target payload
    | _ => s
  | .call place method args =>
    match s.process.refs[place]? with
    | some (.proxy p) => s.call p method args
    | _ => s
  | .answer n answer =>
    match s.calls[n]? with
    | none => s
    | some c => { s with calls := s.calls.set n (c.hear answer) }

/-- The host after moves in order from the start. -/
def run (ms : List (Move α σ)) : Host α σ :=
  ms.foldl step {}

/-! ### What a move does -/

/-- What a move makes of a host. -/
inductive Effect (s : Host α σ) (mv : Move α σ) : Host α σ → Prop
  /-- No bridge made an instance, and no call was begun or answered. -/
  | process {process : Process (Forwarding α σ)} (h : s.process.Extends process) :
      Effect s mv { s with process }
  /-- A bridge made an instance through the handle at the move's place. It has the next number, the
      handle's type, and what the move gave. -/
  | made {m : Making α σ} {place : Nat} (move : mv = .make place m.bridge m.adapter m.target m.payload)
      (held : s.process.refs[place]? = some (.handle m.handle))
      (number : m.number = s.process.nextProxy) :
      Effect s mv { s with
        process :=
          { s.process with
            nextProxy := s.process.nextProxy + 1
            refs := .proxy ⟨m.number, m.handle.type, m.forwarding⟩ :: s.process.refs }
        made := m :: s.made }
  /-- A call was begun on the instance at the move's place. -/
  | called {place : Nat} {p : Proxy (Forwarding α σ)} {method : Method} {args : List Value}
      (move : mv = .call place method args) (held : s.process.refs[place]? = some (.proxy p)) :
      Effect s mv (s.call p method args)
  /-- A call was given an answer, which it takes if it waits for one. -/
  | answered {n : Nat} {c : Call α σ} {answer : (q : Question α σ) → q.Answer}
      (move : mv = .answer n answer) (begun : s.calls[n]? = some c) :
      Effect s mv { s with calls := s.calls.set n (c.hear answer) }

variable {s}

/-- An attempt to make an instance makes one or leaves the host as it was. -/
theorem effect_make {place : Nat} {h : Handle} (held : s.process.refs[place]? = some (.handle h))
    (b : Bridge σ) (adapter : α) (target : CallTarget) (payload : Option Payload) :
    s.Effect (.make place b adapter target payload) (s.make h b adapter target payload) := by
  have hattempt := h.attempt_instantiate (b.forwarding adapter target payload) s.process.nextProxy
  unfold Host.make Process.instantiate
  generalize h.instantiate (b.forwarding adapter target payload) s.process.nextProxy = r at hattempt
  cases hattempt with
  | failed e => exact .process (.same rfl rfl)
  | made =>
    exact .made (m := ⟨s.process.nextProxy, b, h, adapter, target, payload⟩) rfl held rfl

/-- What any move makes of a host. -/
theorem effect_step (mv : Move α σ) : s.Effect mv (s.step mv) := by
  -- A move to a place without a fitting reference leaves the process as it is, too.
  have hsame : s.Effect mv s := .process (.same rfl rfl)
  cases mv with
  | process m => exact .process (Process.extends_step m)
  | make place b adapter target payload =>
    simp only [Host.step]
    split
    next h hplace => exact effect_make hplace b adapter target payload
    next => exact hsame
  | call place method args =>
    simp only [Host.step]
    split
    next p hplace => exact .called rfl hplace
    next => exact hsame
  | answer n answer =>
    simp only [Host.step]
    split
    next => exact hsame
    next c hc => exact .answered rfl hc

/-! ### The invariant -/

/-- A call that was begun on the instance that was made as `m` says is where the answers have led. -/
def Follows (m : Making α σ) (c : Call α σ) : Prop :=
  (m.forwarding.dialogue m.handle.type c.method c.args).Reaches c.exchanged c.rest

/-- The invariant of a host. -/
structure Sound (s : Host α σ) : Prop where
  /-- Every instance that a bridge made has a number of its own. -/
  made : Numbered Making.number s.process.nextProxy s.made
  /-- The instances in circulation have numbers from the counter, and what they were given. -/
  proxies : ∀ p, .proxy p ∈ s.process.refs → p.id < s.process.nextProxy ∧
    ∀ m ∈ s.made, m.number = p.id → p.type = m.handle.type ∧ p.handler = m.forwarding
  /-- The calls are of instances with numbers from the counter, and are where the answers led. -/
  calls : ∀ c ∈ s.calls, c.callee < s.process.nextProxy ∧
    ∀ m ∈ s.made, m.number = c.callee → Follows m c

/-- At the start nothing was made and nobody was called. -/
theorem Sound.start : ({} : Host α σ).Sound :=
  ⟨.nil, by simp, by simp⟩

/-- New instances disturb neither the old ones nor the calls. -/
theorem Sound.extend (hs : s.Sound) {process : Process (Forwarding α σ)}
    (h : s.process.Extends process) : Sound { s with process } := by
  have hnext := h.next
  refine ⟨hs.made.of_subset (fun _ hm => hm) hnext, ?_, ?_⟩
  · intro p hp
    rcases h.proxies p hp with hp | ⟨hle, hlt⟩
    · obtain ⟨hid, hgiven⟩ := hs.proxies p hp
      exact ⟨by show p.id < process.nextProxy; omega, hgiven⟩
    · refine ⟨hlt, fun m hm heq => ?_⟩
      have := hs.made.below m hm
      omega
  · intro c hc
    obtain ⟨hid, hfollows⟩ := hs.calls c hc
    exact ⟨by show c.callee < process.nextProxy; omega, hfollows⟩

/-- An instance that a bridge makes has what it is given. -/
theorem Sound.make (hs : s.Sound) {new : Making α σ} (hnumber : new.number = s.process.nextProxy) :
    Sound { s with
      process :=
        { s.process with
          nextProxy := s.process.nextProxy + 1
          refs := .proxy ⟨new.number, new.handle.type, new.forwarding⟩ :: s.process.refs }
      made := new :: s.made } := by
  -- The number of the new instance is the counter's, so nothing older is confused with it.
  have hold : ∀ m ∈ s.made, m.number ≠ new.number := by
    intro m hm
    have := hs.made.below m hm
    omega
  refine ⟨hs.made.cons hnumber, ?_, ?_⟩
  · intro p hp
    rcases List.mem_cons.mp hp with hp | hp
    · cases hp
      refine ⟨hnumber ▸ Nat.lt_succ_self _, fun m hm hid => ?_⟩
      rcases List.mem_cons.mp hm with rfl | hm
      · exact ⟨rfl, rfl⟩
      · exact absurd hid (hold m hm)
    · obtain ⟨hid, hgiven⟩ := hs.proxies p hp
      refine ⟨Nat.lt_succ_of_lt hid, fun m hm heq => ?_⟩
      rcases List.mem_cons.mp hm with rfl | hm
      · omega
      · exact hgiven m hm heq
  · intro c hc
    obtain ⟨hid, hfollows⟩ := hs.calls c hc
    refine ⟨Nat.lt_succ_of_lt hid, fun m hm heq => ?_⟩
    rcases List.mem_cons.mp hm with rfl | hm
    · omega
    · exact hfollows m hm heq

/-- To begin a call of an instance in circulation. -/
theorem Sound.call (hs : s.Sound) {p : Proxy (Forwarding α σ)} (hp : .proxy p ∈ s.process.refs)
    (method : Method) (args : List Value) : (s.call p method args).Sound := by
  refine ⟨hs.made, hs.proxies, ?_⟩
  intro c hc
  rcases List.mem_append.mp hc with hc | hc
  · exact hs.calls c hc
  · obtain ⟨hid, hgiven⟩ := hs.proxies p hp
    rw [List.mem_singleton.mp hc]
    refine ⟨hid, fun m hm heq => ?_⟩
    -- The call is the dialogue of what the instance holds, which is what it was given.
    obtain ⟨htype, hhandler⟩ := hgiven m hm heq
    rw [Follows, ← htype, ← hhandler]
    exact .start _

/-- An answer leads a call one question on. -/
theorem Follows.hear {m : Making α σ} {c : Call α σ} (h : Follows m c)
    (answer : (q : Question α σ) → q.Answer) : Follows m (c.hear answer) := by
  unfold Call.hear
  split
  next => exact h
  next q next hrest =>
    unfold Follows at h
    rw [hrest] at h
    exact h.snoc (answer q)

/-- An answer does not change what was called. -/
theorem head_hear (c : Call α σ) (answer : (q : Question α σ) → q.Answer) :
    (c.hear answer).head = c.head := by
  unfold Call.hear
  split <;> rfl

/-- A call that is answered is where the answers have led. -/
theorem Sound.answer (hs : s.Sound) {n : Nat} {c : Call α σ} (hc : s.calls[n]? = some c)
    (answer : (q : Question α σ) → q.Answer) :
    Sound { s with calls := s.calls.set n (c.hear answer) } := by
  obtain ⟨hid, hfollows⟩ := hs.calls c (List.mem_of_getElem? hc)
  refine ⟨hs.made, hs.proxies, ?_⟩
  intro c' hc'
  rcases List.mem_or_eq_of_mem_set hc' with hc' | rfl
  · exact hs.calls c' hc'
  · have hcallee : (c.hear answer).callee = c.callee := congrArg Prod.fst (head_hear c answer)
    rw [hcallee]
    exact ⟨hid, fun m hm heq => (hfollows m hm heq).hear answer⟩

/-- Every move keeps the invariant. -/
theorem Sound.step (hs : s.Sound) (mv : Move α σ) : (s.step mv).Sound := by
  have he := effect_step (s := s) mv
  generalize s.step mv = s' at he ⊢
  cases he with
  | process h => exact hs.extend h
  | made move held number => exact hs.make number
  | called move held => exact hs.call (List.mem_of_getElem? held) _ _
  | answered move begun => exact hs.answer begun _

/-- The invariant holds after every run. -/
theorem Sound.run (ms : List (Move α σ)) : (Host.run ms).Sound :=
  List.foldlRecOn ms Host.step Sound.start fun _ hs m _ => hs.step m

/-! ### The moves behind makings and calls -/

/-- A run with one more move. -/
theorem run_concat (ms : List (Move α σ)) (mv : Move α σ) : run (ms ++ [mv]) = (run ms).step mv := by
  rw [run, run, List.foldl_append, List.foldl_cons, List.foldl_nil]

/-- What holds after a run and not at the start was brought about by a move of the run. -/
theorem exists_move_of_run {P : Host α σ → Prop} (hstart : ¬P {}) {ms : List (Move α σ)}
    (h : P (run ms)) :
    ∃ before mv after, ms = before ++ mv :: after ∧ ¬P (run before) ∧ P ((run before).step mv) := by
  induction ms using List.reverseRecOn with
  | nil => exact absurd h hstart
  | append_singleton ms mv ih =>
    -- Either it held already before the last move, or this is the move.
    by_cases hbefore : P (run ms)
    · obtain ⟨before, mv', after, rfl, hnot, hafter⟩ := ih hbefore
      exact ⟨before, mv', after ++ [mv], by simp, hnot, hafter⟩
    · rw [run_concat] at h
      exact ⟨ms, mv, [], rfl, hbefore, h⟩

/-- A making that a move adds is of an instance with the next number, through the handle at the
    move's place, with what the move gives. -/
theorem make_of_made_step {mv : Move α σ} {m : Making α σ} (hold : m ∉ s.made)
    (hnew : m ∈ (s.step mv).made) :
    ∃ place, mv = .make place m.bridge m.adapter m.target m.payload ∧
      s.process.refs[place]? = some (.handle m.handle) ∧ s.process.nextProxy = m.number := by
  have he := effect_step (s := s) mv
  generalize s.step mv = s' at he hnew
  cases he with
  | process h => exact absurd hnew hold
  | made move held number =>
    rcases List.mem_cons.mp hnew with rfl | hmem
    · exact ⟨_, move, held, number.symm⟩
    · exact absurd hmem hold
  | called move held => exact absurd hnew hold
  | answered move begun => exact absurd hnew hold

/-- An answered call stands where it stood, with the head it had. -/
theorem heads_set_hear {n : Nat} {c : Call α σ} (hc : s.calls[n]? = some c)
    (answer : (q : Question α σ) → q.Answer) :
    (s.calls.set n (c.hear answer)).map Call.head = s.calls.map Call.head := by
  obtain ⟨hn, hget⟩ := List.getElem?_eq_some_iff.mp hc
  have hlength : n < (s.calls.map Call.head).length := by rwa [List.length_map]
  have hhead : c.head = (s.calls.map Call.head)[n] := by rw [List.getElem_map, hget]
  rw [List.map_set, head_hear, hhead]
  exact List.set_getElem_self hlength

/-- A call that a move adds is the move's, on the instance at the move's place. -/
theorem call_of_heads_step {mv : Move α σ} {callee : Nat} {method : Method} {args : List Value}
    (hold : (callee, method, args) ∉ s.calls.map Call.head)
    (hnew : (callee, method, args) ∈ (s.step mv).calls.map Call.head) :
    ∃ place p, mv = .call place method args ∧ s.process.refs[place]? = some (.proxy p) ∧
      p.id = callee := by
  have he := effect_step (s := s) mv
  generalize s.step mv = s' at he hnew
  cases he with
  | process h => exact absurd hnew hold
  | made move held number => exact absurd hnew hold
  | @called place p method' args' move held =>
    simp only [Host.call, List.map_append, List.mem_append, List.map_cons, List.map_nil,
      List.mem_singleton] at hnew
    rcases hnew with hnew | hnew
    · exact absurd hnew hold
    · cases hnew
      exact ⟨place, p, move, held, rfl⟩
  | answered move begun =>
    rw [heads_set_hear begun] at hnew
    exact absurd hnew hold

/-- A call that is answered goes on as its next question says. -/
theorem hear_of_asking {c : Call α σ} {q : Question α σ} (h : c.rest.status = .asking q)
    (answer : (q : Question α σ) → q.Answer) :
    ∃ rest, c.hear answer = ⟨c.callee, c.method, c.args, c.exchanged ++ [⟨q, answer q⟩], rest⟩ := by
  unfold Call.hear
  split
  next r hrest =>
    rw [hrest] at h
    cases h
  next q' next hrest =>
    rw [hrest] at h
    cases h
    exact ⟨_, rfl⟩

/-! ### What calls come to -/

/-- What holds after the moves `ms` of an instance that a bridge made as `m` says. -/
structure ConductLaws (ms : List (Move α σ)) (m : Making α σ) : Prop where
  /-- One move of the run made it: through the handle at the move's place, with the number that was
      next, and with what the move gave. -/
  given : ∃ before place after,
    ms = before ++ .make place m.bridge m.adapter m.target m.payload :: after ∧
      (run before).process.refs[place]? = some (.handle m.handle) ∧
      (run before).process.nextProxy = m.number
  /-- No other making has its number, -/
  unique : ∀ m' ∈ (run ms).made, m'.number = m.number → m' = m
  /-- and what is in circulation under this number is of the handle's type and holds what was given. -/
  captured : ∀ p, .proxy p ∈ (run ms).process.refs → p.id = m.number →
    p.type = m.handle.type ∧ p.handler = m.forwarding
  /-- A call on it goes back to a move of the run, which called the instance with the same method and
      the same arguments. -/
  begun : ∀ c ∈ (run ms).calls, c.callee = m.number → ∃ before place p after,
    ms = before ++ .call place c.method c.args :: after ∧
      (run before).process.refs[place]? = some (.proxy p) ∧ p.id = m.number
  /-- Every move that calls the instance begins a call, -/
  begins : ∀ place p method args, (run ms).process.refs[place]? = some (.proxy p) →
    p.id = m.number → ∃ rest, (run (ms ++ [.call place method args])).calls =
      (run ms).calls ++ [⟨m.number, method, args, [], rest⟩]
  /-- and every answer to what a call asks is noted with the question, whoever is called. -/
  answered : ∀ n c q, (run ms).calls[n]? = some c → c.rest.status = .asking q →
    ∀ answer : (q : Question α σ) → q.Answer, ∃ rest, (run (ms ++ [.answer n answer])).calls =
      (run ms).calls.set n ⟨c.callee, c.method, c.args, c.exchanged ++ [⟨q, answer q⟩], rest⟩
  /-- What a call asks, is answered and returns is listed, -/
  conduct : ∀ c ∈ (run ms).calls, c.callee = m.number →
    Conduct m.handle.type m.forwarding c.method c.args c.exchanged c.rest.status
  /-- and three answers are enough to make it return. -/
  returns : ∀ c ∈ (run ms).calls, c.callee = m.number → 3 ≤ c.exchanged.length →
    ∃ r, c.rest.status = .returned r

/-- A making goes back to a move of the run. -/
theorem exists_make_of_made {ms : List (Move α σ)} {m : Making α σ} (hm : m ∈ (run ms).made) :
    ∃ before place after,
      ms = before ++ .make place m.bridge m.adapter m.target m.payload :: after ∧
        (run before).process.refs[place]? = some (.handle m.handle) ∧
        (run before).process.nextProxy = m.number := by
  obtain ⟨before, mv, after, rfl, hold, hnew⟩ :=
    exists_move_of_run (P := fun s => m ∈ s.made) List.not_mem_nil hm
  obtain ⟨place, rfl, hplace, hnext⟩ := make_of_made_step hold hnew
  exact ⟨before, place, after, rfl, hplace, hnext⟩

/-- A call goes back to a move of the run. -/
theorem exists_call_of_mem {ms : List (Move α σ)} {c : Call α σ} (hc : c ∈ (run ms).calls) :
    ∃ before place p after, ms = before ++ .call place c.method c.args :: after ∧
      (run before).process.refs[place]? = some (.proxy p) ∧ p.id = c.callee := by
  obtain ⟨before, mv, after, rfl, hold, hnew⟩ :=
    exists_move_of_run (P := fun s => c.head ∈ s.calls.map Call.head) List.not_mem_nil
      (List.mem_map_of_mem hc)
  obtain ⟨place, p, rfl, hplace, hid⟩ := call_of_heads_step hold hnew
  exact ⟨before, place, p, after, rfl, hplace, hid⟩

/-- After every run, calls on an instance that a bridge made go as `Conduct` lists, with the type of
    its handle and exactly what the bridge and its caller gave when it was made. -/
theorem conduct_run (ms : List (Move α σ)) {m : Making α σ} (hm : m ∈ (run ms).made) :
    ConductLaws ms m := by
  have hs := Sound.run ms
  have hconduct : ∀ c ∈ (run ms).calls, c.callee = m.number →
      Conduct m.handle.type m.forwarding c.method c.args c.exchanged c.rest.status := by
    intro c hc heq
    exact Forwarding.conduct_of_reaches ((hs.calls c hc).2 m hm heq.symm)
  constructor
  case given => exact exists_make_of_made hm
  case unique =>
    intro m' hm' heq
    exact hs.made.unique m' hm' m hm heq
  case captured =>
    intro p hp heq
    exact (hs.proxies p hp).2 m hm heq.symm
  case begun =>
    intro c hc heq
    rw [← heq]
    exact exists_call_of_mem hc
  case begins =>
    intro place p method args hplace heq
    refine ⟨p.handler.dialogue p.type method args, ?_⟩
    simp only [run_concat, Host.step, hplace, Host.call, heq]
  case answered =>
    intro n c q hc hq answer
    obtain ⟨rest, hrest⟩ := hear_of_asking hq answer
    refine ⟨rest, ?_⟩
    simp only [run_concat, Host.step, hc, hrest]
  case conduct => exact hconduct
  case returns =>
    intro c hc heq hlength
    exact (hconduct c hc heq).returned_of_length hlength

/-- One handle makes a plain instance for a bridge that warns and a composite one for a bridge that
    does not, and is dropped. The plain one is called without a script behind the method: the adapter is
    asked with the three references, the warning names the method, and the call returns null. The
    composite passes its owner and its two slots on, in order; it returns what it is answered, or what
    the engine makes of no value; called with too few arguments, it asks nothing. -/
theorem conduct_run_composite :
    let put : Method := ⟨"Store", "put", [.string, .int], .void, false⟩
    let get : Method := ⟨"Store", "get", [.string], .int, false⟩
    let i : Interface := ⟨1, "Store", .root 1 "app", .interface, [put, get]⟩
    let one : CallTarget := ⟨⟨1, "factory"⟩, ⟨2, "target"⟩, ⟨3, "scope"⟩⟩
    let other : CallTarget := ⟨⟨4, "factory"⟩, ⟨5, "target"⟩, ⟨6, "scope"⟩⟩
    let payload : Payload := ⟨⟨7, "owner"⟩, [⟨"b", .int 1⟩, ⟨"a", .int 2⟩]⟩
    let unsupported : (q : Question String String) → q.Answer
      | .invoke .. => .notSupported
      | .warn .. => ()
      | .coerce .. => .ok (.int 0)
    let seven : (q : Question String String) → q.Answer
      | .invoke .. => .value (.int 7)
      | .warn .. => ()
      | .coerce .. => .ok (.int 0)
    let ms : List (Move String String) :=
      [.process (.handle (.foreign (some {})) (.first [i])),
        .make 0 ⟨.uncached, "engine", {}⟩ "script" one none,
        .make 1 ⟨.uncached, "silent", { warnUnsupported := false }⟩ "table" other (some payload),
        .process (.drop 2),
        .call 1 put [.str "k", .int 3], .call 0 get [.str "k"], .call 0 get [.str "l"],
        .call 0 get [], .answer 1 seven, .answer 0 unsupported, .answer 2 unsupported,
        .answer 2 unsupported, .answer 0 unsupported]
    ∃ plain composite, (run ms).made = [composite, plain] ∧
      ConductLaws ms plain ∧ ConductLaws ms composite ∧
      (run ms).calls.map (·.callee) =
        [plain.number, composite.number, composite.number, composite.number] ∧
      (run ms).calls.map (·.exchanged) =
        [[⟨.invoke "script" one none put [.str "k", .int 3], .notSupported⟩,
            ⟨.warn "engine" "Property \"put\" is not defined in interface adapter", ()⟩],
          [⟨.invoke "table" other (some payload) get [.str "k"], .value (.int 7)⟩],
          [⟨.invoke "table" other (some payload) get [.str "l"], .notSupported⟩,
            ⟨.coerce "silent" .int, .ok (.int 0)⟩],
          []] ∧
      (run ms).calls.map (·.rest.status) =
        [.returned (.ok .null), .returned (.ok (.int 7)), .returned (.ok (.int 0)),
          .returned (.error (.arityMismatch "get(String)" 1 0))] := by
  intro put get i one other payload unsupported seven ms
  have hnumbers : (run ms).made.map (·.number) = [2, 1] := by decide
  have hcallees : (run ms).calls.map (·.callee) = [1, 2, 2, 2] := by decide
  obtain ⟨composite, rest, hmade, hcomposite, hrest⟩ := List.map_eq_cons_iff.mp hnumbers
  obtain ⟨plain, rfl, hplain⟩ := List.map_eq_singleton_iff.mp hrest
  have hmem : plain ∈ (run ms).made ∧ composite ∈ (run ms).made := by simp [hmade]
  refine ⟨plain, composite, hmade, conduct_run ms hmem.1, conduct_run ms hmem.2, ?_, ?_, ?_⟩
  · rw [hcallees, hplain, hcomposite]
  · cbv
  · cbv

end Host

end Interop
