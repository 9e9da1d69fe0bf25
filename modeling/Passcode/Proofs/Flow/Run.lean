import Passcode.Proofs.Flow.Trace

/-!
# Runs of flows

What a run comes to, put together from what its parts come to. The events are left out.

## Main definitions

* `Flow.Yields` — the result of a run, and the state it leaves
* `Flow.trace` — the exchanges of a run
* `Flow.askAll` — the flow that asks one question after another

## Main statements

* `Flow.Yields.bind` — one run after another
* `Flow.run_keeps`, `run_simulates` — what holds question by question, for the questions that a flow
  may ask, holds of its runs
* `Flow.run_interpret` — a flow whose questions are answered by flows
* `Flow.run_leads` — a run leads through its exchanges to its result
* `Flow.trace_bind` — the exchanges of one flow after another
* `Flow.run_askAll_simulates` — surroundings that agree question by question agree on every run
* `Flow.run_askAll_filter` — questions that do not show can be left out of a run
-/

namespace Passcode

namespace Flow

variable {I : Interface} {α β σ τ : Type} {answer : Surroundings I σ} {m : Flow I α} {s s' s'' : σ}
  {a : α} {b : β}

/-- Run in `s`, the flow ends with `a` in `s'`. -/
structure Yields (answer : Surroundings I σ) (m : Flow I α) (s : σ) (a : α) (s' : σ) : Prop where
  result : (m.run answer s).result = a
  state : (m.run answer s).state = s'

theorem yields_done : (done a).Yields answer s a s := ⟨rfl, rfl⟩

theorem Yields.log {e : Event} (h : m.Yields answer s a s') : (log e m).Yields answer s a s' :=
  ⟨h.result, h.state⟩

theorem Yields.bind {f : α → Flow I β} (h : m.Yields answer s a s')
    (hf : (f a).Yields answer s' b s'') : (m.bind f).Yields answer s b s'' := by
  obtain ⟨rfl, rfl⟩ := h
  constructor
  · rw [run_bind]
    exact hf.result
  · rw [run_bind]
    exact hf.state

theorem Yields.map (h : m.Yields answer s a s') (f : α → β) :
    (m.map f).Yields answer s (f a) s' :=
  h.bind yields_done

theorem run_map (answer : Surroundings I σ) (f : α → β) (m : Flow I α) (s : σ) :
    (m.map f).run answer s
      = ⟨f (m.run answer s).result, (m.run answer s).events, (m.run answer s).state⟩ := by
  rw [map, run_bind]
  simp

/-! ## From questions to runs -/

/-- What every question that a flow may ask leaves true holds after the flow. -/
theorem run_keeps {p : I.Question → Prop} (Inv : σ → Prop) (hm : m.AsksOnly p)
    (step : ∀ q, p q → ∀ s, Inv s → Inv (answer q s).state) (h : Inv s) :
    Inv (m.run answer s).state := by
  induction m generalizing s with
  | done a => exact h
  | log e next ih => exact ih hm h
  | ask q next ih => exact ih _ (hm.2 _) (step q hm.1 s h)

/-- Surroundings that agree on every question that a flow may ask agree on its runs. -/
theorem run_simulates {p : I.Question → Prop} {R : σ → τ → Prop} {f : Surroundings I σ}
    {g : Surroundings I τ} (hm : m.AsksOnly p)
    (step : ∀ q, p q → ∀ s t, R s t →
      (f q s).result = (g q t).result ∧ R (f q s).state (g q t).state)
    {s : σ} {t : τ} (h : R s t) :
    (m.run f s).result = (m.run g t).result ∧ R (m.run f s).state (m.run g t).state := by
  induction m generalizing s t with
  | done a => exact ⟨rfl, h⟩
  | log e next ih => exact ih hm h
  | ask q next ih =>
    obtain ⟨hresult, hstate⟩ := step q hm.1 s t h
    simp only [run, hresult]
    exact ih _ (hm.2 _) hstate

/-- A flow whose questions are answered by flows, run by running those. -/
theorem run_interpret {J : Interface} (answer : Surroundings J σ)
    (serve : (q : I.Question) → Flow J (I.Answer q)) (m : Flow I α) (s : σ) :
    (m.interpret serve).run answer s = m.run (fun q s => (serve q).run answer s) s := by
  induction m generalizing s with
  | done a => rfl
  | log e next ih => simp only [interpret, run, ih]
  | ask q next ih => simp only [interpret, run_bind, run, ih]

/-! ## The exchanges of a run -/

/-- The exchanges of a run, in order. -/
def trace (answer : Surroundings I σ) : Flow I α → σ → List (Exchange I)
  | done _, _ => []
  | log _ next, s => next.trace answer s
  | ask q next, s =>
    ⟨q, (answer q s).result⟩ :: (next (answer q s).result).trace answer (answer q s).state

/-- A run leads through its exchanges to its result. -/
theorem run_leads (answer : Surroundings I σ) (m : Flow I α) (s : σ) :
    m.Leads (m.trace answer s) (done (m.run answer s).result) := by
  induction m generalizing s with
  | done a => exact .refl _
  | log e next ih => exact .log (ih s)
  | ask q next ih => exact .ask _ (ih _ _)

/-- One flow after another has the exchanges of both. -/
theorem trace_bind (answer : Surroundings I σ) (m : Flow I α) (f : α → Flow I β) (s : σ) :
    (m.bind f).trace answer s
      = m.trace answer s ++ (f (m.run answer s).result).trace answer (m.run answer s).state := by
  induction m generalizing s with
  | done a => rfl
  | log e next ih => exact ih s
  | ask q next ih => exact congrArg _ (ih _ _)

theorem Returns.run {p : α → Prop} (h : m.Returns p) (answer : Surroundings I σ) (s : σ) :
    p (m.run answer s).result :=
  (run_leads answer m s).returns h

/-- A run logs what the flow may, and what its surroundings log themselves. -/
theorem LogsOnly.run {p : Event → Prop} (h : m.LogsOnly (fun _ _ => True) p)
    (hanswer : ∀ q s, ∀ e ∈ (answer q s).events, p e) (s : σ) :
    ∀ e ∈ (m.run answer s).events, p e := by
  induction m generalizing s with
  | done a => exact fun e he => absurd he List.not_mem_nil
  | log e next ih =>
    rw [Flow.run, List.forall_mem_cons]
    exact ⟨h.1, ih h.2 s⟩
  | ask q next ih =>
    rw [Flow.run, List.forall_mem_append]
    exact ⟨hanswer q s, ih _ (h _ trivial) _⟩

/-- A flow that may ask nothing has no exchanges. -/
theorem trace_eq_nil (h : m.AsksOnly fun _ => False) (answer : Surroundings I σ) (s : σ) :
    m.trace answer s = [] :=
  List.eq_nil_iff_forall_not_mem.2 ((run_leads answer m s).asksOnly h)

/-- What may ask nothing adds nothing to the exchanges of a flow that it goes on from. -/
theorem trace_bind_of_silent {f : α → Flow I β} (hf : ∀ a, (f a).AsksOnly fun _ => False)
    (answer : Surroundings I σ) (m : Flow I α) (s : σ) :
    (m.bind f).trace answer s = m.trace answer s := by
  rw [trace_bind, trace_eq_nil (hf _), List.append_nil]

/-- A flow that may ask nothing leaves its surroundings as they are. -/
theorem run_state_eq (h : m.AsksOnly fun _ => False) (answer : Surroundings I σ) (s : σ) :
    (m.run answer s).state = s :=
  run_keeps (· = s) h (fun _ hq => hq.elim) rfl

/-- A flow that may ask nothing after its first question has one exchange, and what this leaves is
left at the end. -/
theorem run_ask_of_silent (answer : Surroundings I σ) (s : σ) {q : I.Question}
    {next : I.Answer q → Flow I α} (h : (next (answer q s).result).AsksOnly fun _ => False) :
    (ask q next).trace answer s = [⟨q, (answer q s).result⟩]
      ∧ ((ask q next).run answer s).state = (answer q s).state := by
  constructor
  · rw [trace, trace_eq_nil h]
  · rw [run, run_state_eq h]

/-! ## Asking one question after another -/

/-- Ask questions in turn: every question with its answer. -/
def askAll : List I.Question → Flow I (List (Exchange I))
  | [] => done []
  | q :: qs => ask q fun a => (askAll qs).map (⟨q, a⟩ :: ·)

theorem run_askAll_cons (answer : Surroundings I σ) (q : I.Question) (qs : List I.Question)
    (s : σ) :
    (askAll (q :: qs)).run answer s
      = ⟨⟨q, (answer q s).result⟩ :: ((askAll qs).run answer (answer q s).state).result,
          (answer q s).events ++ ((askAll qs).run answer (answer q s).state).events,
          ((askAll qs).run answer (answer q s).state).state⟩ := by
  simp only [askAll, run, run_map]

/-- Surroundings that agree question by question agree on every run. The relation may speak about
the questions still to come. -/
theorem run_askAll_simulates {R : List I.Question → σ → τ → Prop} {f : Surroundings I σ}
    {g : Surroundings I τ}
    (step : ∀ q qs s t, R (q :: qs) s t →
      (f q s).result = (g q t).result ∧ R qs (f q s).state (g q t).state)
    {qs : List I.Question} {s : σ} {t : τ} (h : R qs s t) :
    ((askAll qs).run f s).result = ((askAll qs).run g t).result
      ∧ R [] ((askAll qs).run f s).state ((askAll qs).run g t).state := by
  induction qs generalizing s t with
  | nil => exact ⟨rfl, h⟩
  | cons q qs ih =>
    obtain ⟨hresult, hstate⟩ := step q qs s t h
    obtain ⟨hrest, hend⟩ := ih hstate
    simp only [askAll, run, run_map, hresult, hrest]
    exact ⟨trivial, hend⟩

/-- Questions that do not show can be left out of a run. What the others see of a state is given by
a relation: they are answered alike in related states, and what is left out stays within it. -/
theorem run_askAll_filter {p : I.Question → Bool} {R : σ → σ → Prop}
    (shown : ∀ q, p q = true → ∀ s t, R s t →
      (answer q s).result = (answer q t).result ∧ R (answer q s).state (answer q t).state)
    (hidden : ∀ q, p q = false → ∀ s t, R s t → R (answer q s).state t)
    {qs : List I.Question} {s t : σ} (h : R s t) :
    ((askAll qs).run answer s).result.filter (fun x => p x.question)
        = ((askAll (qs.filter p)).run answer t).result
      ∧ R ((askAll qs).run answer s).state ((askAll (qs.filter p)).run answer t).state := by
  induction qs generalizing s t with
  | nil => exact ⟨rfl, h⟩
  | cons q qs ih =>
    cases hq : p q with
    | false =>
      obtain ⟨hrest, hend⟩ := ih (hidden q hq s t h)
      have hfirst : List.filter p (q :: qs) = List.filter p qs :=
        List.filter_cons_of_neg (by simp [hq])
      simp only [hfirst, askAll, run, run_map, ← hrest]
      exact ⟨List.filter_cons_of_neg (by simp [hq]), hend⟩
    | true =>
      obtain ⟨hresult, hstate⟩ := shown q hq s t h
      obtain ⟨hrest, hend⟩ := ih hstate
      have hfirst : List.filter p (q :: qs) = q :: List.filter p qs := List.filter_cons_of_pos hq
      simp only [hfirst, askAll, run, run_map, ← hresult, ← hrest]
      exact ⟨List.filter_cons_of_pos hq, hend⟩

end Flow

end Passcode
