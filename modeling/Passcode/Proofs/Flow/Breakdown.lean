import Passcode.Proofs.Flow.Run
import Passcode.Service.Calls

/-!
# Surroundings that may break down

Foreign code may break down in the middle of an answer. A flow over such surroundings ends where
they break down, with what it has logged so far. It is a flow of its own, over an interface in which
every answer is an attempt, so all that is known of flows and their runs holds of it.

## Main definitions

* `Interface.Fragile` — the same questions, any of which may break down
* `Flow.fragile` — the flow that ends where its surroundings break down

## Main statements

* `Flow.fragile_bind` — one flow after another, if the first comes to its end
* `Flow.run_fragile_of_calm` — surroundings that do not break down run a flow as ever
-/

namespace Passcode

/-- The questions of an interface, any of which may break down instead of being answered. -/
abbrev Interface.Fragile (I : Interface) : Interface := ⟨I.Question, fun q => Attempt (I.Answer q)⟩

namespace Flow

variable {I J : Interface} {α β σ : Type}

/-- Go on after an attempt, unless it has broken down. -/
def orBreak (f : α → Flow I (Attempt β)) : Attempt α → Flow I (Attempt β)
  | .done a => f a
  | .panicked reason => done (.panicked reason)

@[simp] theorem orBreak_done (f : α → Flow I (Attempt β)) (a : α) : orBreak f (.done a) = f a := rfl

@[simp] theorem orBreak_panicked (f : α → Flow I (Attempt β)) (reason : Option String) :
    orBreak f (.panicked reason) = done (.panicked reason) := rfl

/-- The flow over surroundings that may break down. It ends where they do. -/
def fragile : Flow I α → Flow I.Fragile (Attempt α)
  | done a => done (.done a)
  | log e next => log e next.fragile
  | ask q next => ask q (orBreak fun a => (next a).fragile)

/-- One flow after another, if the first comes to its end. -/
theorem fragile_bind (m : Flow I α) (f : α → Flow I β) :
    (m.bind f).fragile = m.fragile.bind (orBreak fun a => (f a).fragile) := by
  induction m with
  | done a => rfl
  | log e next ih => exact congrArg (log e) ih
  | ask q next ih =>
    refine congrArg (ask (I := I.Fragile) q) (funext fun answer => ?_)
    cases answer with
    | done a => exact ih a
    | panicked reason => rfl

/-- A flow may ask the same where its surroundings may break down. -/
theorem AsksOnly.fragile {p : I.Question → Prop} {m : Flow I α} (h : m.AsksOnly p) :
    Flow.AsksOnly (I := I.Fragile) p m.fragile := by
  induction m with
  | done a => trivial
  | log e next ih => exact ih h
  | ask q next ih =>
    refine ⟨h.1, fun answer => ?_⟩
    cases answer with
    | done a => exact ih a (h.2 a)
    | panicked reason => trivial

/-- A flow that has not broken down ends as it may. -/
theorem Returns.fragile {p : α → Prop} {m : Flow I α} (h : m.Returns p) :
    m.fragile.Returns fun r => ∀ a, r = .done a → p a := by
  induction m with
  | done a =>
    rintro b hb
    obtain rfl : a = b := Attempt.done.inj hb
    exact h
  | log e next ih => exact ih h
  | ask q next ih =>
    intro answer
    cases answer with
    | done a => exact ih a (h a)
    | panicked reason => exact nofun

/-- A breakdown logs nothing. -/
theorem LogsOnly.fragile {p : Event → Prop} {m : Flow I α} (h : m.LogsOnly (fun _ _ => True) p) :
    m.fragile.LogsOnly (fun _ _ => True) p := by
  induction m with
  | done a => trivial
  | log e next ih => exact ⟨h.1, ih h.2⟩
  | ask q next ih =>
    intro answer _
    cases answer with
    | done a => exact ih a (h a trivial)
    | panicked reason => trivial

/-- Surroundings that do not break down run a flow as ever. -/
theorem run_fragile_of_calm {calm : Surroundings I.Fragile σ} {answer : Surroundings I σ}
    (h : ∀ q s, calm q s = ⟨.done (answer q s).result, (answer q s).events, (answer q s).state⟩)
    (m : Flow I α) (s : σ) :
    m.fragile.run calm s
      = ⟨.done (m.run answer s).result, (m.run answer s).events, (m.run answer s).state⟩ := by
  induction m generalizing s with
  | done a => rfl
  | log e next ih => simp only [fragile, run, ih]
  | ask q next ih => simp only [fragile, run, h, orBreak_done, ih]

end Flow

end Passcode
