import Passcode.Log.Event

/-!
# Flows

What the program does in the world is a *flow*: it asks its surroundings one thing after another,
logs on the way and ends with a result. A flow is data, so the same flow can be run against a store
in memory, against a server that fails, or one question at a time between the questions of other
flows. Each question is one atomic step.

## Main definitions

* `Interface` — what may be asked, and what the answer to each question is
* `Flow` — a flow over an interface
* `Flow.run` — a flow run against surroundings with a state
* `Flow.interpret` — every question answered by a flow over another interface
-/

namespace Passcode

/-- What may be asked of the surroundings, and the type of the answer to each question. -/
structure Interface where
  Question : Type
  Answer : Question → Type

/-- A computation that asks its surroundings, logs, and ends with a result. -/
inductive Flow (I : Interface) (α : Type) where
  | done (a : α)
  | log (e : Event) (next : Flow I α)
  | ask (q : I.Question) (next : I.Answer q → Flow I α)

namespace Flow

variable {I J : Interface} {α β γ : Type}

/-- Go on with another flow. -/
def bind : Flow I α → (α → Flow I β) → Flow I β
  | done a, f => f a
  | log e next, f => log e (next.bind f)
  | ask q next, f => ask q fun a => (next a).bind f

instance : Monad (Flow I) where
  pure := done
  bind := bind

/-- Change the result. -/
def map (f : α → β) (m : Flow I α) : Flow I β := m.bind fun a => done (f a)

@[simp] theorem done_bind (a : α) (f : α → Flow I β) : (done a).bind f = f a := rfl

@[simp] theorem log_bind (e : Event) (m : Flow I α) (f : α → Flow I β) :
    (log e m).bind f = log e (m.bind f) := rfl

@[simp] theorem ask_bind (q : I.Question) (m : I.Answer q → Flow I α) (f : α → Flow I β) :
    (ask q m).bind f = ask q fun a => (m a).bind f := rfl

@[simp] theorem bind_done (m : Flow I α) : m.bind done = m := by
  induction m with
  | done a => rfl
  | log e next ih => simp [ih]
  | ask q next ih => simp [ih]

theorem bind_assoc (m : Flow I α) (f : α → Flow I β) (g : β → Flow I γ) :
    (m.bind f).bind g = m.bind fun a => (f a).bind g := by
  induction m with
  | done a => rfl
  | log e next ih => simp [ih]
  | ask q next ih => simp [ih]

/-! ## Running -/

/-- The end of a run: the result, the events in order, and the state of the surroundings. -/
structure Run (σ α : Type) where
  result : α
  events : List Event
  state : σ

/-- Surroundings: how a question is answered in a state. -/
abbrev Surroundings (I : Interface) (σ : Type) := (q : I.Question) → σ → Run σ (I.Answer q)

/-- Run a flow in a state. -/
def run {σ : Type} (answer : Surroundings I σ) : Flow I α → σ → Run σ α
  | done a, s => ⟨a, [], s⟩
  | log e next, s =>
    let r := next.run answer s
    ⟨r.result, e :: r.events, r.state⟩
  | ask q next, s =>
    let a := answer q s
    let r := (next a.result).run answer a.state
    ⟨r.result, a.events ++ r.events, r.state⟩

@[simp] theorem run_done {σ : Type} (answer : Surroundings I σ) (a : α) (s : σ) :
    (done a).run answer s = ⟨a, [], s⟩ := rfl

theorem run_bind {σ : Type} (answer : Surroundings I σ) (m : Flow I α) (f : α → Flow I β) (s : σ) :
    (m.bind f).run answer s
      = ⟨((f (m.run answer s).result).run answer (m.run answer s).state).result,
          (m.run answer s).events
            ++ ((f (m.run answer s).result).run answer (m.run answer s).state).events,
          ((f (m.run answer s).result).run answer (m.run answer s).state).state⟩ := by
  induction m generalizing s with
  | done a => simp
  | log e next ih => simp [run, ih]
  | ask q next ih => simp [run, ih]

/-- Answer every question of a flow by a flow over another interface. -/
def interpret (answer : (q : I.Question) → Flow J (I.Answer q)) : Flow I α → Flow J α
  | done a => done a
  | log e next => log e (next.interpret answer)
  | ask q next => (answer q).bind fun a => (next a).interpret answer

end Flow

end Passcode
