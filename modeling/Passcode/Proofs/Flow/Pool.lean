import Passcode.Proofs.Flow.Trace

/-!
# Flows in progress at the same time

Any number of calls are in progress over one shared state, each a flow of its own. A *move* starts
a call, lets one call go on by a single log entry or a single question, or changes the shared state
from outside. A schedule is any list of moves, so every order of the questions of all calls is a
run, and nothing is assumed about fairness or about how many calls there are.

## Main definitions

* `Arena` — what calls do, how their questions are answered, and what else may happen
* `Pool` — the calls started so far, what is left of each, and the questions answered
* `Arena.run` — a pool after a schedule

## Main statements

* `Arena.step_induction` — the four things a move can do
* `Arena.Traced`, `traced_run` — each call has come through its flow by its own exchanges
* `Arena.Keeps`, `shared_run` — an invariant of the shared state and the history holds throughout,
  and held whenever a question was answered
-/

namespace Passcode

/-- One answered question of a pool: the call that asked it, the state in which it was asked, and
the exchange. -/
structure Turn (I : Interface) (σ : Type) where
  caller : Nat
  state : σ
  exchange : Exchange I

/-- Calls in progress over a shared state. -/
structure Pool (I : Interface) (κ α σ : Type) where
  state : σ
  /-- The calls in the order in which they were started, each with what is left of it. -/
  calls : List (κ × Flow I α) := []
  /-- The questions answered so far, in order. -/
  turns : List (Turn I σ) := []

/-- What calls do, how a question is answered given what chance decides, and what else may happen
to the shared state. -/
structure Arena (I : Interface) (κ α σ ω ε : Type) where
  flow : κ → Flow I α
  answer : ω → Flow.Surroundings I σ
  change : ε → σ → σ

/-- A move of a schedule. -/
inductive Move (κ ω ε : Type) where
  | start (call : κ)
  /-- Let a call go on by one log entry or one question; `chance` is used up by the question. -/
  | proceed (caller : Nat) (chance : ω)
  | change (e : ε)

/-- The call that a move starts, if it starts one. -/
def Move.started? {κ ω ε : Type} : Move κ ω ε → Option κ
  | .start call => some call
  | _ => none

variable {I : Interface} {κ α σ ω ε : Type}

/-- What stands in a list with one more element at its end. -/
theorem getElem?_concat_cases {β : Type} {l : List β} {x y : β} {n : Nat}
    (h : (l ++ [x])[n]? = some y) : l[n]? = some y ∨ n = l.length ∧ x = y := by
  rcases Nat.lt_trichotomy n l.length with hlt | rfl | hgt
  · rw [List.getElem?_append_left hlt] at h
    exact .inl h
  · rw [List.getElem?_concat_length, Option.some.injEq] at h
    exact .inr ⟨rfl, h⟩
  · rw [List.getElem?_eq_none (by simp; omega)] at h
    exact absurd h (by simp)

namespace Pool

/-- The exchanges of one call, in order. -/
def asked (p : Pool I κ α σ) (i : Nat) : List (Exchange I) :=
  (p.turns.filter fun t => t.caller == i).map (·.exchange)

/-- An exchange of a call is that of one of its turns. -/
theorem exists_turn_of_asked {p : Pool I κ α σ} {i : Nat} {x : Exchange I} (h : x ∈ p.asked i) :
    ∃ t ∈ p.turns, t.caller = i ∧ t.exchange = x := by
  obtain ⟨t, ht, hexchange⟩ := List.mem_map.1 h
  obtain ⟨hturn, hcaller⟩ := List.mem_filter.1 ht
  exact ⟨t, hturn, by simpa using hcaller, hexchange⟩

/-- The exchange of a turn is one of its caller. -/
theorem asked_of_turn {p : Pool I κ α σ} {t : Turn I σ} (ht : t ∈ p.turns) :
    t.exchange ∈ p.asked t.caller :=
  List.mem_map.2 ⟨t, List.mem_filter.2 ⟨ht, by simp⟩, rfl⟩

/-- The call that was started as number `i`, if there is one. -/
def call? (p : Pool I κ α σ) (i : Nat) : Option κ := (p.calls[i]?).map (·.1)

/-- A call has ended with a result. -/
def Ended (p : Pool I κ α σ) (i : Nat) (call : κ) (a : α) : Prop :=
  p.calls[i]? = some (call, .done a)

/-- The result of a call, if it has ended. -/
def result? (p : Pool I κ α σ) (i : Nat) : Option α := (p.calls[i]?).bind fun c => c.2.result?

/-- Whether a call has ended, and how, can be computed. -/
theorem ended_iff {p : Pool I κ α σ} {i : Nat} {call : κ} {a : α} :
    p.Ended i call a ↔ p.call? i = some call ∧ p.result? i = some a := by
  unfold Ended Pool.call? result?
  cases p.calls[i]? with
  | none => simp
  | some c => simp [Prod.ext_iff, Flow.result?_eq_some_iff]

theorem Ended.call? {p : Pool I κ α σ} {i : Nat} {call : κ} {a : α} (h : p.Ended i call a) :
    p.call? i = some call := by
  rw [Pool.call?, show p.calls[i]? = some (call, .done a) from h]
  rfl

end Pool

namespace Arena

variable (a : Arena I κ α σ ω ε)

/-- A pool after one question of one of its calls. -/
def afterAsk (p : Pool I κ α σ) (i : Nat) (call : κ) (q : I.Question)
    (next : I.Answer q → Flow I α) (chance : ω) : Pool I κ α σ where
  state := (a.answer chance q p.state).state
  calls := p.calls.set i (call, next (a.answer chance q p.state).result)
  turns := p.turns ++ [⟨i, p.state, ⟨q, (a.answer chance q p.state).result⟩⟩]

/-- A pool after a move. A call that has ended, or was never started, does not go on. -/
def step (p : Pool I κ α σ) : Move κ ω ε → Pool I κ α σ
  | .start call => { p with calls := p.calls ++ [(call, a.flow call)] }
  | .change e => { p with state := a.change e p.state }
  | .proceed i chance =>
    match p.calls[i]? with
    | some (call, .log _ next) => { p with calls := p.calls.set i (call, next) }
    | some (call, .ask q next) => a.afterAsk p i call q next chance
    | _ => p

/-- A pool after a schedule. -/
def run (p : Pool I κ α σ) (moves : List (Move κ ω ε)) : Pool I κ α σ := moves.foldl a.step p

/-- **What a move can do.** A call is started, the state changes from outside, or one of the calls
gets past a log entry or a question. -/
theorem step_induction {P : Pool I κ α σ → Prop} {p : Pool I κ α σ} (same : P p)
    (start : ∀ call, P { p with calls := p.calls ++ [(call, a.flow call)] })
    (change : ∀ e, P { p with state := a.change e p.state })
    (log : ∀ i call e next, p.calls[i]? = some (call, .log e next) →
      P { p with calls := p.calls.set i (call, next) })
    (ask : ∀ i call q next chance, p.calls[i]? = some (call, .ask q next) →
      P (a.afterAsk p i call q next chance))
    (m : Move κ ω ε) : P (a.step p m) := by
  cases m with
  | start call => exact start call
  | change e => exact change e
  | proceed i chance =>
    simp only [step]
    split
    · next call e next h => exact log i call e next h
    · next call q next h => exact ask i call q next chance h
    · exact same

/-- What every move of a schedule keeps holds after it. -/
theorem run_induction_of_mem {P : Pool I κ α σ → Prop} {moves : List (Move κ ω ε)}
    (step : ∀ p, ∀ m ∈ moves, P p → P (a.step p m)) {p : Pool I κ α σ} (h : P p) :
    P (a.run p moves) := by
  induction moves generalizing p with
  | nil => exact h
  | cons m moves ih =>
    have hfirst : P (a.step p m) := step p m List.mem_cons_self h
    exact ih (fun p m hm => step p m (List.mem_cons_of_mem _ hm)) hfirst

/-- What every move keeps holds after every schedule. -/
theorem run_induction {P : Pool I κ α σ → Prop} (step : ∀ p m, P p → P (a.step p m))
    {p : Pool I κ α σ} (h : P p) (moves : List (Move κ ω ε)) : P (a.run p moves) :=
  a.run_induction_of_mem (fun p m _ => step p m) h

/-! ## The calls of a pool are those that its schedule started -/

/-- A call that goes on stays the call that it is. -/
theorem map_fst_set {β : Type} {l : List (κ × β)} {i : Nat} {call : κ} {x : β}
    (h : l[i]? = some (call, x)) (y : β) : (l.set i (call, y)).map (·.1) = l.map (·.1) := by
  rw [List.map_set]
  refine List.ext_getElem? fun j => ?_
  by_cases hij : i = j
  · subst hij
    have hlt : i < l.length := (List.getElem?_eq_some_iff.1 h).1
    rw [List.getElem?_set_self (by simpa using hlt), List.getElem?_map, h]
    rfl
  · rw [List.getElem?_set_ne hij]

theorem map_calls_step (p : Pool I κ α σ) (m : Move κ ω ε) :
    (a.step p m).calls.map (·.1) = p.calls.map (·.1) ++ m.started?.toList := by
  cases m with
  | start call => exact List.map_append
  | change e => exact (List.append_nil _).symm
  | proceed i chance =>
    refine Eq.trans ?_ (List.append_nil _).symm
    simp only [step]
    split
    · next call e next h => exact map_fst_set h next
    · next call q next h => exact map_fst_set h _
    · rfl

theorem map_calls_run (p : Pool I κ α σ) (moves : List (Move κ ω ε)) :
    (a.run p moves).calls.map (·.1) = p.calls.map (·.1) ++ moves.filterMap Move.started? := by
  induction moves generalizing p with
  | nil => exact (List.append_nil _).symm
  | cons m moves ih =>
    have hrest : (a.run p (m :: moves)).calls.map (·.1)
        = (a.step p m).calls.map (·.1) ++ moves.filterMap Move.started? := ih (a.step p m)
    rw [hrest, map_calls_step, List.append_assoc, List.filterMap_cons]
    cases m.started? <;> rfl

/-- The call with a number is the one that the schedule started with that number. -/
theorem call?_run (s : σ) (moves : List (Move κ ω ε)) (i : Nat) :
    (a.run { state := s } moves).call? i = (moves.filterMap Move.started?)[i]? := by
  rw [Pool.call?, ← List.getElem?_map, map_calls_run]
  rfl

/-! ## Each call follows its own flow -/

/-- Each call has come through its flow by its own exchanges, and only calls that were started have
asked anything. -/
structure Traced (p : Pool I κ α σ) : Prop where
  leads : ∀ i call rest, p.calls[i]? = some (call, rest) → (a.flow call).Leads (p.asked i) rest
  caller_lt : ∀ t ∈ p.turns, t.caller < p.calls.length

theorem asked_length_calls {p : Pool I κ α σ} (h : ∀ t ∈ p.turns, t.caller < p.calls.length) :
    p.asked p.calls.length = [] := by
  have hnone : p.turns.filter (fun t => t.caller == p.calls.length) = [] := by
    rw [List.filter_eq_nil_iff]
    intro t ht
    have := h t ht
    simp only [beq_iff_eq]
    omega
  simp [Pool.asked, hnone]

theorem asked_afterAsk (p : Pool I κ α σ) (i j : Nat) (call : κ) (q : I.Question)
    (next : I.Answer q → Flow I α) (chance : ω) :
    (a.afterAsk p i call q next chance).asked j
      = p.asked j ++ if i = j then [⟨q, (a.answer chance q p.state).result⟩] else [] := by
  by_cases hij : i = j <;> simp [Pool.asked, afterAsk, hij]

variable {a}

theorem Traced.start {p : Pool I κ α σ} (h : a.Traced p) (call : κ) :
    a.Traced { p with calls := p.calls ++ [(call, a.flow call)] } where
  leads := by
    intro i call' rest hi
    rcases getElem?_concat_cases hi with hi | ⟨rfl, hcall⟩
    · exact h.leads i call' rest hi
    · obtain ⟨rfl, rfl⟩ := Prod.mk.inj hcall
      have hasked : ({ p with calls := p.calls ++ [(call, a.flow call)] } : Pool I κ α σ).asked
          p.calls.length = [] := asked_length_calls h.caller_lt
      rw [hasked]
      exact .refl _
  caller_lt := by
    intro t ht
    have := h.caller_lt t ht
    simp only [List.length_append, List.length_singleton]
    omega

theorem Traced.log {p : Pool I κ α σ} (h : a.Traced p) {i : Nat} {call : κ} {e : Event}
    {next : Flow I α} (hi : p.calls[i]? = some (call, .log e next)) :
    a.Traced { p with calls := p.calls.set i (call, next) } where
  leads := by
    intro j call' rest hj
    by_cases hij : i = j
    · subst hij
      have hlt : i < p.calls.length := (List.getElem?_eq_some_iff.1 hi).1
      rw [List.getElem?_set_self hlt, Option.some.injEq, Prod.mk.injEq] at hj
      obtain ⟨rfl, rfl⟩ := hj
      exact (h.leads i call _ hi).then_log
    · rw [List.getElem?_set_ne hij] at hj
      exact h.leads j call' rest hj
  caller_lt := by
    intro t ht
    rw [List.length_set]
    exact h.caller_lt t ht

theorem Traced.ask {p : Pool I κ α σ} (h : a.Traced p) {i : Nat} {call : κ} {q : I.Question}
    {next : I.Answer q → Flow I α} (chance : ω) (hi : p.calls[i]? = some (call, .ask q next)) :
    a.Traced (a.afterAsk p i call q next chance) where
  leads := by
    intro j call' rest hj
    rw [asked_afterAsk]
    by_cases hij : i = j
    · subst hij
      have hlt : i < p.calls.length := (List.getElem?_eq_some_iff.1 hi).1
      simp only [afterAsk] at hj
      rw [List.getElem?_set_self hlt, Option.some.injEq, Prod.mk.injEq] at hj
      obtain ⟨rfl, rfl⟩ := hj
      rw [if_pos rfl]
      exact (h.leads i call _ hi).then_ask _
    · simp only [afterAsk] at hj
      rw [List.getElem?_set_ne hij] at hj
      rw [if_neg hij, List.append_nil]
      exact h.leads j call' rest hj
  caller_lt := by
    intro t ht
    simp only [afterAsk, List.mem_append, List.mem_singleton] at ht
    simp only [afterAsk, List.length_set]
    rcases ht with ht | rfl
    · exact h.caller_lt t ht
    · exact (List.getElem?_eq_some_iff.1 hi).1

theorem Traced.step {p : Pool I κ α σ} (h : a.Traced p) (m : Move κ ω ε) :
    a.Traced (a.step p m) :=
  a.step_induction h h.start (fun _ => ⟨h.leads, h.caller_lt⟩) (fun _ _ _ _ hi => h.log hi)
    (fun _ _ _ _ chance hi => h.ask chance hi) m

/-- **Each call follows its own flow**, whatever the others do in between. -/
theorem traced_run (s : σ) (moves : List (Move κ ω ε)) : a.Traced (a.run { state := s } moves) :=
  a.run_induction (fun _ m h => h.step m)
    ⟨fun i call rest hi => absurd hi (by simp), fun t ht => absurd ht List.not_mem_nil⟩ moves

/-- A question that is known to be asked was asked by a call that may ask it. -/
theorem Traced.asksOnly {p : Pool I κ α σ} (h : a.Traced p) {t : Turn I σ} (ht : t ∈ p.turns)
    {q : κ → I.Question → Prop} (hq : ∀ call, (a.flow call).AsksOnly (q call)) :
    ∃ call, p.call? t.caller = some call ∧ q call t.exchange.question := by
  obtain ⟨⟨call, rest⟩, hcall⟩ : ∃ c, p.calls[t.caller]? = some c :=
    ⟨_, List.getElem?_eq_getElem (h.caller_lt t ht)⟩
  refine ⟨call, by simp [Pool.call?, hcall], ?_⟩
  refine (h.leads t.caller call rest hcall).asksOnly (hq call) t.exchange ?_
  exact List.mem_map.2 ⟨t, List.mem_filter.2 ⟨ht, by simp⟩, rfl⟩

/-! ## Invariants of the shared state -/

/-- `Inv turns state` is kept by every change from outside and by every answer to every question,
whoever asks it. -/
structure Keeps (a : Arena I κ α σ ω ε) (Inv : List (Turn I σ) → σ → Prop) : Prop where
  change : ∀ turns s e, Inv turns s → Inv turns (a.change e s)
  answer : ∀ turns s i q chance, Inv turns s →
    Inv (turns ++ [⟨i, s, ⟨q, (a.answer chance q s).result⟩⟩]) (a.answer chance q s).state

/-- What `shared_run` says about a pool. -/
structure Shared (a : Arena I κ α σ ω ε) (Inv : List (Turn I σ) → σ → Prop)
    (p : Pool I κ α σ) : Prop where
  now : Inv p.turns p.state
  /-- The invariant held when a question was asked. -/
  before : ∀ n t, p.turns[n]? = some t → Inv (p.turns.take n) t.state
  /-- Every answer was given by the surroundings. -/
  honest : ∀ t ∈ p.turns,
    ∃ chance, t.exchange.answer = (a.answer chance t.exchange.question t.state).result

theorem Shared.afterAsk {Inv : List (Turn I σ) → σ → Prop} (hk : a.Keeps Inv)
    {p : Pool I κ α σ} (h : a.Shared Inv p) (i : Nat) (call : κ) (q : I.Question)
    (next : I.Answer q → Flow I α) (chance : ω) :
    a.Shared Inv (a.afterAsk p i call q next chance) where
  now := hk.answer p.turns p.state i q chance h.now
  before := by
    intro n t ht
    simp only [Arena.afterAsk] at ht ⊢
    rcases getElem?_concat_cases ht with ht | ⟨rfl, rfl⟩
    · have hn : n < p.turns.length := (List.getElem?_eq_some_iff.1 ht).1
      rw [List.take_append_of_le_length (Nat.le_of_lt hn)]
      exact h.before n t ht
    -- The new turn comes last, so all turns so far came before it.
    · rw [List.take_left]
      exact h.now
  honest := by
    intro t ht
    simp only [Arena.afterAsk, List.mem_append, List.mem_singleton] at ht
    rcases ht with ht | rfl
    · exact h.honest t ht
    · exact ⟨chance, rfl⟩

/-- **An invariant of the shared state** holds after every schedule, and held whenever a question
was answered. -/
theorem shared_run {Inv : List (Turn I σ) → σ → Prop} (hk : a.Keeps Inv) {s : σ} (h : Inv [] s)
    (moves : List (Move κ ω ε)) : a.Shared Inv (a.run { state := s } moves) := by
  refine a.run_induction (fun p m hp => ?_) ⟨h, by simp, by simp⟩ moves
  exact a.step_induction hp (fun _ => ⟨hp.now, hp.before, hp.honest⟩)
    (fun e => ⟨hk.change _ _ e hp.now, hp.before, hp.honest⟩)
    (fun _ _ _ _ _ => ⟨hp.now, hp.before, hp.honest⟩)
    (fun i call q next chance _ => hp.afterAsk hk i call q next chance) m

end Arena

end Passcode
