import Passcode.Proofs.Flow.Pool

/-!
# Before and after in a schedule

A schedule that is cut in two. What was asked in the first part stays asked, a call that starts in
the second part asks in the second part only, and what a call may still ask at the cut bounds all
that it asks later.

## Main definitions

* `Arena.AsksOnlyFrom` — all that a call asks from a turn on, and may still ask

## Main statements

* `Arena.turns_run` — a schedule adds turns at the end
* `Arena.turn_cases` — a turn after a move is an old one, or the one of this move
* `Arena.exists_start` — where in a schedule a call was started
* `Arena.length_le_of_turn` — a call asks nothing before it is started
* `Arena.asksOnly_later` — what a call may still ask bounds its later turns
-/

namespace Passcode

namespace Arena

variable {I : Interface} {κ α σ ω ε : Type} {a : Arena I κ α σ ω ε}

theorem run_append (p : Pool I κ α σ) (before after : List (Move κ ω ε)) :
    a.run p (before ++ after) = a.run (a.run p before) after :=
  List.foldl_append

/-! ## Turns come at the end -/

theorem turns_step (p : Pool I κ α σ) (m : Move κ ω ε) : p.turns <+: (a.step p m).turns :=
  a.step_induction (P := fun p' => p.turns <+: p'.turns) (List.prefix_refl _)
    (fun _ => List.prefix_refl _) (fun _ => List.prefix_refl _)
    (fun _ _ _ _ _ => List.prefix_refl _) (fun _ _ _ _ _ _ => List.prefix_append _ _) m

theorem getElem?_turns_step {p : Pool I κ α σ} {n : Nat} {t : Turn I σ} (h : p.turns[n]? = some t)
    (m : Move κ ω ε) : (a.step p m).turns[n]? = some t := by
  obtain ⟨new, hnew⟩ := turns_step (a := a) p m
  have hlt : n < p.turns.length := (List.getElem?_eq_some_iff.1 h).1
  rw [← hnew, List.getElem?_append_left hlt, h]

/-- A turn after a move has been there before it, or its question was answered in this move. -/
theorem turn_cases {p : Pool I κ α σ} {m : Move κ ω ε} {n : Nat} {t : Turn I σ} :
    (a.step p m).turns[n]? = some t →
      p.turns[n]? = some t
        ∨ ∃ chance, (a.step p m).state = (a.answer chance t.exchange.question p.state).state :=
  a.step_induction
    (P := fun after => after.turns[n]? = some t → p.turns[n]? = some t
      ∨ ∃ chance, after.state = (a.answer chance t.exchange.question p.state).state)
    .inl (fun _ => .inl) (fun _ => .inl) (fun _ _ _ _ _ => .inl)
    (fun i call q next chance _ h => by
      rcases getElem?_concat_cases h with h | ⟨-, rfl⟩
      · exact .inl h
      · exact .inr ⟨chance, rfl⟩)
    m

/-- A schedule adds turns at the end. -/
theorem turns_run (p : Pool I κ α σ) (moves : List (Move κ ω ε)) :
    p.turns <+: (a.run p moves).turns :=
  a.run_induction (P := fun p' => p.turns <+: p'.turns) (fun p' m h => h.trans (turns_step p' m))
    (List.prefix_refl _) moves

/-- A call that was started stays the call that it is. -/
theorem call?_step {p : Pool I κ α σ} {i : Nat} {call : κ} (h : p.call? i = some call)
    (m : Move κ ω ε) : (a.step p m).call? i = some call := by
  rw [Pool.call?, ← List.getElem?_map] at h ⊢
  have hlt : i < (p.calls.map (·.1)).length := (List.getElem?_eq_some_iff.1 h).1
  rw [map_calls_step, List.getElem?_append_left hlt, h]

/-! ## Where a call was started -/

/-- What a list with some elements left out holds at a place comes from an element with as many
kept before it. -/
theorem exists_of_getElem?_filterMap {β γ : Type} {f : β → Option γ} {l : List β} {i : Nat} {c : γ}
    (h : (l.filterMap f)[i]? = some c) :
    ∃ before b after, l = before ++ b :: after ∧ f b = some c
      ∧ (before.filterMap f).length = i := by
  induction l generalizing i with
  | nil => simp at h
  | cons b l ih =>
    rw [List.filterMap_cons] at h
    cases hb : f b with
    | none =>
      rw [hb] at h
      obtain ⟨before, b', after, rfl, hb', hlength⟩ := ih h
      exact ⟨b :: before, b', after, rfl, hb', by rwa [List.filterMap_cons_none hb]⟩
    | some d =>
      rw [hb] at h
      cases i with
      | zero => exact ⟨[], b, l, rfl, hb.trans (by simpa using h), rfl⟩
      | succ i =>
        obtain ⟨before, b', after, rfl, hb', hlength⟩ := ih (by simpa using h)
        exact ⟨b :: before, b', after, rfl, hb', by simp [List.filterMap_cons_some hb, hlength]⟩

/-- Where in a schedule a call was started: after as many others as its number says. -/
theorem exists_start {s : σ} {moves : List (Move κ ω ε)} {i : Nat} {call : κ}
    (h : (a.run { state := s } moves).call? i = some call) :
    ∃ before after, moves = before ++ .start call :: after
      ∧ (a.run { state := s } before).calls.length = i := by
  rw [call?_run] at h
  obtain ⟨before, m, after, rfl, hm, hlength⟩ := exists_of_getElem?_filterMap h
  refine ⟨before, after, ?_, ?_⟩
  · cases m with
    | start call' => rw [Option.some.inj hm]
    | proceed caller chance => cases hm
    | change e => cases hm
  · have hcalls := congrArg List.length (map_calls_run (a := a) { state := s } before)
    simpa [hlength] using hcalls

/-- A call asks nothing before it is started. -/
theorem length_le_of_turn {s : σ} {before after : List (Move κ ω ε)} {n : Nat} {t : Turn I σ}
    (ht : (a.run { state := s } (before ++ after)).turns[n]? = some t)
    (hcaller : (a.run { state := s } before).calls.length ≤ t.caller) :
    (a.run { state := s } before).turns.length ≤ n := by
  refine Nat.le_of_not_lt fun hn => ?_
  obtain ⟨later, hlater⟩ := turns_run (a := a) (a.run { state := s } before) after
  rw [run_append, ← hlater, List.getElem?_append_left hn] at ht
  have := (traced_run (a := a) s before).caller_lt t (List.mem_of_getElem? ht)
  omega

/-! ## What a call may still ask -/

/-- From turn `first` on, a call has asked only what satisfies `q`, and may ask nothing else. -/
structure AsksOnlyFrom (q : I.Question → Prop) (first i : Nat) (p : Pool I κ α σ) : Prop where
  turns : ∀ n t, first ≤ n → p.turns[n]? = some t → t.caller = i → q t.exchange.question
  rest : ∃ call rest, p.calls[i]? = some (call, rest) ∧ rest.AsksOnly q

variable {q : I.Question → Prop} {first i : Nat} {p : Pool I κ α σ}

/-- What is left of the calls of a pool, after one of them has gone on. -/
theorem exists_rest_set (h : ∃ call rest, p.calls[i]? = some (call, rest) ∧ rest.AsksOnly q)
    {j : Nat} {call : κ} {before after : Flow I α} (hj : p.calls[j]? = some (call, before))
    (hafter : before.AsksOnly q → after.AsksOnly q) :
    ∃ call' rest, (p.calls.set j (call, after))[i]? = some (call', rest) ∧ rest.AsksOnly q := by
  obtain ⟨call', rest, hi, hrest⟩ := h
  by_cases hij : j = i
  · subst hij
    obtain ⟨rfl, rfl⟩ := Prod.mk.inj (Option.some.inj (hi.symm.trans hj))
    exact ⟨_, after, List.getElem?_set_self (List.getElem?_eq_some_iff.1 hi).1, hafter hrest⟩
  · exact ⟨call', rest, by rwa [List.getElem?_set_ne hij], hrest⟩

theorem AsksOnlyFrom.step (h : AsksOnlyFrom q first i p) (m : Move κ ω ε) :
    AsksOnlyFrom q first i (a.step p m) := by
  refine a.step_induction h (fun call => ⟨h.turns, ?_⟩) (fun _ => ⟨h.turns, h.rest⟩)
    (fun j call e next hj => ⟨h.turns, exists_rest_set h.rest hj fun hnext => hnext⟩)
    (fun j call question next chance hj => ⟨?_, ?_⟩) m
  · obtain ⟨call', rest, hi, hrest⟩ := h.rest
    have hlt := (List.getElem?_eq_some_iff.1 hi).1
    exact ⟨call', rest, (List.getElem?_append_left hlt).trans hi, hrest⟩
  · intro n t hn ht hcaller
    simp only [afterAsk] at ht
    rcases getElem?_concat_cases ht with ht | ⟨-, rfl⟩
    · exact h.turns n t hn ht hcaller
    -- The new turn is asked by what was left of the call.
    · obtain ⟨call', rest, hi, hrest⟩ := h.rest
      obtain rfl : j = i := hcaller
      obtain ⟨-, rfl⟩ := Prod.mk.inj (Option.some.inj (hi.symm.trans hj))
      exact hrest.1
  · exact exists_rest_set h.rest hj fun hnext => hnext.2 _

/-- **What a call may still ask bounds its later turns.** -/
theorem asksOnly_later {call : κ} {rest : Flow I α} (hi : p.calls[i]? = some (call, rest))
    (hrest : rest.AsksOnly q) (moves : List (Move κ ω ε)) {n : Nat} {t : Turn I σ}
    (hn : p.turns.length ≤ n) (ht : (a.run p moves).turns[n]? = some t) (hcaller : t.caller = i) :
    q t.exchange.question := by
  have hfirst : AsksOnlyFrom q p.turns.length i p := by
    refine ⟨fun n t hn ht => ?_, call, rest, hi, hrest⟩
    rw [List.getElem?_eq_none hn] at ht
    cases ht
  have hlast := a.run_induction (P := AsksOnlyFrom q p.turns.length i) (fun _ m h => h.step m)
    hfirst moves
  exact hlast.turns n t hn ht hcaller

end Arena

end Passcode
