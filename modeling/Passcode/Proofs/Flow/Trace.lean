import Passcode.Flow

/-!
# Traces of flows

A flow in progress is known from outside by the questions it has asked and the answers it got.
`Flow.Leads` says which exchanges lead from a flow to what is left of it, whoever gave the answers
and whatever happened to the surroundings in between; so a fact about the trace of a flow holds
under every schedule.

## Main definitions

* `Exchange` — a question with its answer
* `Flow.Leads` — the exchanges that lead from a flow to what is left of it
* `Flow.AsksOnly` — a condition on every question that a flow may come to ask
* `Flow.Returns` — a condition on every result with which a flow may end
* `Flow.LogsOnly` — a condition on every event that a flow may come to log

## Main statements

* `Flow.Leads.asksOnly` — what a flow may ask bounds what it has asked
* `Flow.Leads.returns` — how a flow may end bounds how it has ended
* `Flow.logsOnly_interpret` — what a flow may log whose questions are answered by flows
* `Flow.Leads.of_map` — a changed result does not show in a trace
* `Flow.Leads.of_bind_done` — a trace of one flow after another is one trace after another
* `Flow.Leads.of_interpret_done` — a flow whose questions are answered by flows, from its trace
-/

namespace Passcode

/-- A question together with the answer to it. -/
structure Exchange (I : Interface) where
  question : I.Question
  answer : I.Answer question

namespace Flow

variable {I J : Interface} {α β : Type}

/-! ## Exchanges that lead through a flow -/

/-- `m.Leads asked rest`: when the questions of `m` are answered as `asked` says, `rest` is left. -/
inductive Leads : Flow I α → List (Exchange I) → Flow I α → Prop
  | refl (m : Flow I α) : Leads m [] m
  | log {e : Event} {next rest : Flow I α} {asked : List (Exchange I)} (h : Leads next asked rest) :
      Leads (.log e next) asked rest
  | ask {q : I.Question} {next : I.Answer q → Flow I α} {rest : Flow I α}
      {asked : List (Exchange I)} (a : I.Answer q) (h : Leads (next a) asked rest) :
      Leads (.ask q next) (⟨q, a⟩ :: asked) rest

theorem Leads.trans {m n rest : Flow I α} {xs ys : List (Exchange I)} (h : m.Leads xs n)
    (h' : n.Leads ys rest) : m.Leads (xs ++ ys) rest := by
  induction h with
  | refl m => exact h'
  | log h ih => exact .log (ih h')
  | ask a h ih => exact .ask a (ih h')

/-- An event adds nothing to a trace. -/
theorem Leads.then_log {m next : Flow I α} {e : Event} {asked : List (Exchange I)}
    (h : m.Leads asked (.log e next)) : m.Leads asked next := by
  have := h.trans (.log (.refl next))
  rwa [List.append_nil] at this

/-- An answer adds its exchange at the end of a trace. -/
theorem Leads.then_ask {m : Flow I α} {q : I.Question} {next : I.Answer q → Flow I α}
    {asked : List (Exchange I)} (h : m.Leads asked (.ask q next)) (a : I.Answer q) :
    m.Leads (asked ++ [⟨q, a⟩]) (next a) :=
  h.trans (.ask a (.refl _))

@[simp] theorem leads_done_iff {a : α} {asked : List (Exchange I)} {rest : Flow I α} :
    (done a).Leads asked rest ↔ asked = [] ∧ rest = done a := by
  constructor
  · intro h
    cases h
    exact ⟨rfl, rfl⟩
  · rintro ⟨rfl, rfl⟩
    exact .refl _

/-- A flow that ends after one more event asks nothing more. -/
theorem Leads.of_log_done {e : Event} {a b : α} {asked : List (Exchange I)}
    (h : (Flow.log e (done a)).Leads asked (done b)) : asked = [] ∧ b = a := by
  cases h with
  | log h =>
    obtain ⟨hasked, hb⟩ := leads_done_iff.1 h
    exact ⟨hasked, done.inj hb⟩

/-- A changed result does not show in a trace. -/
theorem Leads.of_map {f : α → β} {m : Flow I α} {asked : List (Exchange I)} {rest : Flow I β}
    (h : (m.map f).Leads asked rest) : ∃ left, rest = left.map f ∧ m.Leads asked left := by
  induction m generalizing asked with
  | done a =>
    obtain ⟨rfl, rfl⟩ := leads_done_iff.1 h
    exact ⟨done a, rfl, .refl _⟩
  | log e next ih =>
    cases h with
    | refl => exact ⟨.log e next, rfl, .refl _⟩
    | log h =>
      obtain ⟨left, hrest, hleft⟩ := ih h
      exact ⟨left, hrest, .log hleft⟩
  | ask q next ih =>
    cases h with
    | refl => exact ⟨.ask q next, rfl, .refl _⟩
    | ask a h =>
      obtain ⟨left, hrest, hleft⟩ := ih a h
      exact ⟨left, hrest, .ask a hleft⟩

theorem eq_done_of_map_eq_done {f : α → β} {m : Flow I α} {b : β} (h : m.map f = done b) :
    ∃ a, m = done a ∧ f a = b := by
  cases m with
  | done a => exact ⟨a, rfl, by simpa [map] using h⟩
  | log e next => simp [map] at h
  | ask q next => simp [map] at h

/-- A flow with a changed result ends where the flow ends. -/
theorem Leads.of_map_done {f : α → β} {m : Flow I α} {asked : List (Exchange I)} {b : β}
    (h : (m.map f).Leads asked (done b)) : ∃ a, f a = b ∧ m.Leads asked (done a) := by
  obtain ⟨left, hb, hleft⟩ := h.of_map
  obtain ⟨a, rfl, ha⟩ := eq_done_of_map_eq_done hb.symm
  exact ⟨a, ha, hleft⟩

/-- One flow after another comes to its end through the end of the first. -/
theorem Leads.of_bind_done {m : Flow I α} {f : α → Flow I β} {asked : List (Exchange I)} {b : β}
    (h : (m.bind f).Leads asked (done b)) :
    ∃ a xs ys, asked = xs ++ ys ∧ m.Leads xs (done a) ∧ (f a).Leads ys (done b) := by
  induction m generalizing asked with
  | done a => exact ⟨a, [], asked, rfl, .refl _, h⟩
  | log e next ih =>
    cases h with
    | log h =>
      obtain ⟨a, xs, ys, rfl, hm, hf⟩ := ih h
      exact ⟨a, xs, ys, rfl, .log hm, hf⟩
  | ask q next ih =>
    cases h with
    | ask answer h =>
      obtain ⟨a, xs, ys, rfl, hm, hf⟩ := ih answer h
      exact ⟨a, _ :: xs, ys, rfl, .ask answer hm, hf⟩

/-- A flow whose questions are answered by flows has a trace of its own, and each answer in it came
about by some of the exchanges. -/
theorem Leads.of_interpret_done {answer : (q : I.Question) → Flow J (I.Answer q)} {m : Flow I α}
    {asked : List (Exchange J)} {a : α} (h : (m.interpret answer).Leads asked (done a)) :
    ∃ xs, m.Leads xs (done a)
      ∧ ∀ x ∈ xs, ∃ ys, (∀ y ∈ ys, y ∈ asked) ∧ (answer x.question).Leads ys (done x.answer) := by
  induction m generalizing asked with
  | done b =>
    obtain ⟨rfl, hb⟩ := leads_done_iff.1 h
    rw [done.inj hb]
    exact ⟨[], .refl _, fun x hx => absurd hx List.not_mem_nil⟩
  | log e next ih =>
    cases h with
    | log h =>
      obtain ⟨xs, hxs, hparts⟩ := ih h
      exact ⟨xs, .log hxs, hparts⟩
  | ask q next ih =>
    obtain ⟨b, ys, zs, rfl, hfirst, hrest⟩ := h.of_bind_done
    obtain ⟨xs, hxs, hparts⟩ := ih b hrest
    refine ⟨⟨q, b⟩ :: xs, .ask b hxs, fun x hx => ?_⟩
    rcases List.mem_cons.1 hx with rfl | hx
    · exact ⟨ys, fun y hy => List.mem_append_left _ hy, hfirst⟩
    · obtain ⟨us, hus, hx⟩ := hparts x hx
      exact ⟨us, fun y hy => List.mem_append_right _ (hus y hy), hx⟩

/-- The result of a flow that has ended. -/
def result? : Flow I α → Option α
  | done a => some a
  | _ => none

theorem result?_eq_some_iff {m : Flow I α} {a : α} : m.result? = some a ↔ m = done a := by
  cases m <;> simp [result?]

/-! ## What a flow may ask -/

/-- Every question that a flow may come to ask satisfies `p`. -/
def AsksOnly (p : I.Question → Prop) : Flow I α → Prop
  | done _ => True
  | log _ next => next.AsksOnly p
  | ask q next => p q ∧ ∀ a, (next a).AsksOnly p

theorem Leads.asksOnly {p : I.Question → Prop} {m rest : Flow I α} {asked : List (Exchange I)}
    (h : m.Leads asked rest) (hm : m.AsksOnly p) : ∀ x ∈ asked, p x.question := by
  induction h with
  | refl m => exact fun x hx => absurd hx List.not_mem_nil
  | log h ih => exact ih hm
  | ask a h ih =>
    intro x hx
    rcases List.mem_cons.1 hx with rfl | hx
    · exact hm.1
    · exact ih (hm.2 a) x hx

/-- What is left of a flow may ask no more than the flow. -/
theorem Leads.asksOnly_rest {p : I.Question → Prop} {m rest : Flow I α} {asked : List (Exchange I)}
    (h : m.Leads asked rest) (hm : m.AsksOnly p) : rest.AsksOnly p := by
  induction h with
  | refl m => exact hm
  | log h ih => exact ih hm
  | ask a h ih => exact ih (hm.2 a)

/-- What every question satisfies is no restriction. -/
theorem asksOnly_of_forall {p : I.Question → Prop} (h : ∀ q, p q) (m : Flow I α) :
    m.AsksOnly p := by
  induction m with
  | done a => trivial
  | log e next ih => exact ih
  | ask q next ih => exact ⟨h q, ih⟩

theorem AsksOnly.mono {p p' : I.Question → Prop} {m : Flow I α} (hm : m.AsksOnly p)
    (h : ∀ q, p q → p' q) : m.AsksOnly p' := by
  induction m with
  | done a => trivial
  | log e next ih => exact ih hm
  | ask q next ih => exact ⟨h q hm.1, fun a => ih a (hm.2 a)⟩

theorem asksOnly_bind {p : I.Question → Prop} {m : Flow I α} {f : α → Flow I β} (hm : m.AsksOnly p)
    (hf : ∀ a, (f a).AsksOnly p) : (m.bind f).AsksOnly p := by
  induction m with
  | done a => exact hf a
  | log e next ih => exact ih hm
  | ask q next ih => exact ⟨hm.1, fun a => ih a (hm.2 a)⟩

/-- A flow whose questions are answered by flows may ask what those may ask. -/
theorem asksOnly_interpret {p : I.Question → Prop} {p' : J.Question → Prop}
    {answer : (q : I.Question) → Flow J (I.Answer q)} {m : Flow I α} (hm : m.AsksOnly p)
    (h : ∀ q, p q → (answer q).AsksOnly p') : (m.interpret answer).AsksOnly p' := by
  induction m with
  | done a => trivial
  | log e next ih => exact ih hm
  | ask q next ih => exact asksOnly_bind (h q hm.1) fun a => ih a (hm.2 a)

theorem asksOnly_map {p : I.Question → Prop} {f : α → β} {m : Flow I α} (hm : m.AsksOnly p) :
    (m.map f).AsksOnly p :=
  asksOnly_bind hm fun _ => trivial

/-! ## How a flow may end -/

/-- Every result with which a flow may end satisfies `p`. -/
def Returns (p : α → Prop) : Flow I α → Prop
  | done a => p a
  | log _ next => next.Returns p
  | ask _ next => ∀ a, (next a).Returns p

theorem Leads.returns {p : α → Prop} {m rest : Flow I α} {asked : List (Exchange I)}
    (h : m.Leads asked rest) (hm : m.Returns p) : rest.Returns p := by
  induction h with
  | refl m => exact hm
  | log h ih => exact ih hm
  | ask a h ih => exact ih (hm a)

theorem Returns.mono {p p' : α → Prop} {m : Flow I α} (hm : m.Returns p) (h : ∀ a, p a → p' a) :
    m.Returns p' := by
  induction m with
  | done a => exact h a hm
  | log e next ih => exact ih hm
  | ask q next ih => exact fun a => ih a (hm a)

theorem returns_bind {r : α → Prop} {p : β → Prop} {m : Flow I α} {f : α → Flow I β}
    (hm : m.Returns r) (hf : ∀ a, r a → (f a).Returns p) : (m.bind f).Returns p := by
  induction m with
  | done a => exact hf a hm
  | log e next ih => exact ih hm
  | ask q next ih => exact fun a => ih a (hm a)

theorem returns_map {r : α → Prop} {p : β → Prop} {f : α → β} {m : Flow I α} (hm : m.Returns r)
    (h : ∀ a, r a → p (f a)) : (m.map f).Returns p :=
  returns_bind hm h

/-- What every result satisfies is no restriction. -/
theorem returns_of_forall {p : α → Prop} (h : ∀ a, p a) (m : Flow I α) : m.Returns p := by
  induction m with
  | done a => exact h a
  | log e next ih => exact ih
  | ask q next ih => exact ih

/-- Whoever answers its questions, a flow ends as it may. -/
theorem returns_interpret {p : α → Prop} (answer : (q : I.Question) → Flow J (I.Answer q))
    {m : Flow I α} (hm : m.Returns p) : (m.interpret answer).Returns p := by
  induction m with
  | done a => exact hm
  | log e next ih => exact ih hm
  | ask q next ih =>
    exact returns_bind (returns_of_forall (fun _ => trivial) (answer q)) fun a _ => ih a (hm a)

/-! ## What a flow may log -/

/-- Every event that a flow may come to log satisfies `p`, as long as every answer is one of
those given. -/
def LogsOnly (given : (q : I.Question) → I.Answer q → Prop) (p : Event → Prop) : Flow I α → Prop
  | done _ => True
  | log e next => p e ∧ next.LogsOnly given p
  | ask q next => ∀ a, given q a → (next a).LogsOnly given p

theorem logsOnly_bind {given : (q : I.Question) → I.Answer q → Prop} {p : Event → Prop}
    {r : α → Prop} {m : Flow I α} {f : α → Flow I β} (hm : m.LogsOnly given p) (hr : m.Returns r)
    (hf : ∀ a, r a → (f a).LogsOnly given p) : (m.bind f).LogsOnly given p := by
  induction m with
  | done a => exact hf a hr
  | log e next ih => exact ⟨hm.1, ih hm.2 hr⟩
  | ask q next ih => exact fun a ha => ih a (hm a ha) (hr a)

/-- A flow whose questions are answered by flows logs what it may, given the answers that those may
come to, and what those may log. -/
theorem logsOnly_interpret {asks : I.Question → Prop}
    {given : (q : I.Question) → I.Answer q → Prop} {given' : (q : J.Question) → J.Answer q → Prop}
    {p : Event → Prop} {answer : (q : I.Question) → Flow J (I.Answer q)} {m : Flow I α}
    (hasks : m.AsksOnly asks) (hm : m.LogsOnly given p)
    (hanswer : ∀ q, asks q → (answer q).LogsOnly given' p)
    (hgiven : ∀ q, asks q → (answer q).Returns (given q)) :
    (m.interpret answer).LogsOnly given' p := by
  induction m with
  | done a => trivial
  | log e next ih => exact ⟨hm.1, ih hasks hm.2⟩
  | ask q next ih =>
    exact logsOnly_bind (hanswer q hasks.1) (hgiven q hasks.1) fun a ha =>
      ih a (hasks.2 a) (hm a ha)

end Flow

end Passcode
