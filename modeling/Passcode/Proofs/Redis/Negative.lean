import Passcode.Proofs.Redis.Attempts
import Passcode.Proofs.Redis.Fate

/-!
# What a negative answer of the Redis store leaves open

With no other client active, a call that was answered negatively has changed nothing as long as
every command that the server executed was also heard of. A command whose reply was lost breaks
this: the client takes it for a failure and answers negatively in the end, but the record was
written, or used up, all the same.

A call gets its fates from a schedule, one for each command that it sends; what it leaves is stated
as a relation between two moments that composes, so that it is proved for one attempt and carried
over to all attempts by `run_retry`.

## Main definitions

* `Trial` — a server whose commands meet the fates of a schedule
* `Trial.Unheard` — a reply was lost between two moments
* `Trial.AtMostWritten`, `Trial.AtMostRemoved` — what a negative answer leaves

## Main statements

* `Trial.atMostWritten_of_set_false`, `atMostRemoved_of_consume_false` — the two calls
* `Trial.changed_only_if_unheard` — a negative answer means no change, up to replies that were lost
* `Trial.negative_answers_after_changes` — with lost replies it may not
-/

namespace Passcode.Redis

open Passcode.Flow

/-- A server whose commands meet the fates of a schedule, one after another. -/
structure Trial where
  server : Server
  /-- The time in milliseconds. -/
  clock : Nat
  /-- The number of commands sent so far. -/
  sent : Nat := 0

namespace Trial

/-- Answer a question, given the fates of commands. -/
def answer (fates : Nat → Fate) : Surroundings ServerInterface Trial
  | .dial .., t => ⟨.ok (), [], t⟩
  | .send c, t =>
    let (reply, server) := t.server.meet t.clock c (fates t.sent)
    ⟨reply, [], { t with server, sent := t.sent + 1 }⟩
  | .pause millis, t => ⟨(), [], { t with clock := t.clock + millis }⟩

/-- Of the commands sent between two moments, one was executed without the client hearing of it. -/
def Unheard (fates : Nat → Fate) (t t' : Trial) : Prop :=
  ∃ n, t.sent ≤ n ∧ n < t'.sent ∧ (fates n).isUnheard = true

variable {fates : Nat → Fate} {t t' t'' : Trial} {key value expected : String}

theorem not_unheard_of_sent_eq (h : t'.sent = t.sent) : ¬ Unheard fates t t' := by
  rintro ⟨n, hle, hlt, -⟩
  omega

theorem unheard_trans (h : t.sent ≤ t'.sent) (h' : t'.sent ≤ t''.sent) :
    Unheard fates t t'' ↔ Unheard fates t t' ∨ Unheard fates t' t'' := by
  constructor
  · rintro ⟨n, hle, hlt, hn⟩
    by_cases hmid : n < t'.sent
    · exact .inl ⟨n, hle, hmid, hn⟩
    · exact .inr ⟨n, by omega, hlt, hn⟩
  · rintro (⟨n, hle, hlt, hn⟩ | ⟨n, hle, hlt, hn⟩)
    · exact ⟨n, hle, by omega, hn⟩
    · exact ⟨n, by omega, hlt, hn⟩

/-- Of one command, its own fate decides. -/
theorem unheard_of_sent_succ (h : t'.sent = t.sent + 1) :
    Unheard fates t t' ↔ (fates t.sent).isUnheard = true := by
  constructor
  · rintro ⟨n, hle, hlt, hn⟩
    obtain rfl : n = t.sent := by omega
    exact hn
  · exact fun hn => ⟨t.sent, Nat.le_refl _, by omega, hn⟩

/-! ## Writing -/

/-- What a call that was to keep a value leaves when it did not end well: nothing has changed, or
replies were lost and the value is kept. -/
structure AtMostWritten (fates : Nat → Fate) (key value : String) (t t' : Trial) : Prop where
  sent_le : t.sent ≤ t'.sent
  same : ¬ Unheard fates t t' → t'.server = t.server
  wrote : Unheard fates t t' → ∃ deadline, t'.server.find? key = some ⟨value, deadline⟩
  frame : ∀ other, other ≠ key → t'.server.find? other = t.server.find? other

theorem AtMostWritten.trans (h : AtMostWritten fates key value t t')
    (h' : AtMostWritten fates key value t' t'') : AtMostWritten fates key value t t'' where
  sent_le := Nat.le_trans h.sent_le h'.sent_le
  same hunheard := by
    rw [unheard_trans h.sent_le h'.sent_le, not_or] at hunheard
    rw [h'.same hunheard.2, h.same hunheard.1]
  wrote hunheard := by
    by_cases hlater : Unheard fates t' t''
    · exact h'.wrote hlater
    · rw [h'.same hlater]
      exact h.wrote (((unheard_trans h.sent_le h'.sent_le).1 hunheard).resolve_right hlater)
  frame other hother := (h'.frame other hother).trans (h.frame other hother)

theorem atMostWritten_pause (millis : Nat) (t : Trial) :
    AtMostWritten fates key value t (answer fates (.pause millis) t).state where
  sent_le := Nat.le_refl _
  same _ := rfl
  wrote h := absurd h (not_unheard_of_sent_eq rfl)
  frame _ _ := rfl

/-- A command that writes: without a reply that was heard, it is done in secret or not at all. -/
theorem atMostWritten_of_ask_error {c : Command}
    (hc : ∀ now (s : Server), ∃ reply deadline,
      s.execute now c = (.ok reply, s.insert key ⟨value, deadline⟩)) {fault : Fault}
    (h : ((Client.ask c anyReply).run (answer fates) t).result = .error fault) :
    AtMostWritten fates key value t ((Client.ask c anyReply).run (answer fates) t).state := by
  obtain ⟨reply, deadline, hexecute⟩ := hc t.clock t.server
  have hresult : (t.server.meet t.clock c (fates t.sent)).1.bind anyReply = .error fault := h
  have hstate : ((Client.ask c anyReply).run (answer fates) t).state
      = { t with server := (t.server.meet t.clock c (fates t.sent)).2, sent := t.sent + 1 } := rfl
  rw [hstate]
  have hone : ∀ server, Unheard fates t { t with server, sent := t.sent + 1 }
      ↔ (fates t.sent).isUnheard = true := fun _ => unheard_of_sent_succ rfl
  cases hfate : fates t.sent with
  | answered =>
    rw [Server.meet, hfate, hexecute] at hresult
    cases hresult
  | unheard text =>
    simp only [hfate, Fate.isUnheard, iff_true] at hone
    simp only [Server.meet, Fate.executes, if_true, hexecute]
    refine ⟨Nat.le_succ _, fun h => absurd (hone _) h, fun _ => ?_, fun other hother => ?_⟩
    · exact ⟨deadline, Server.find?_insert _ _ _⟩
    · exact Server.find?_insert_of_ne hother _ _
  | lost text | refused fault =>
    simp only [hfate, Fate.isUnheard, Bool.false_eq_true, iff_false] at hone
    exact ⟨Nat.le_succ _, fun _ => rfl, fun h => absurd h (hone _), fun _ _ => rfl⟩

/-- The attempts of a command that writes, when the last of them failed. -/
theorem atMostWritten_of_execute_error {c : Command}
    (hc : ∀ now (s : Server), ∃ reply deadline,
      s.execute now c = (.ok reply, s.insert key ⟨value, deadline⟩)) (client : Client)
    {fault : Fault}
    (h : ((client.execute (Client.ask c anyReply)).run (answer fates) t).result = .error fault) :
    AtMostWritten fates key value t
      ((client.execute (Client.ask c anyReply)).run (answer fates) t).state := by
  refine run_retry (R := AtMostWritten fates key value) (fun r => ∃ fault, r = .error fault)
    AtMostWritten.trans atMostWritten_pause
    (fun fault => ⟨fault, rfl⟩) (fun _ t hr => ?_) _ _ _ _ _ t ⟨fault, h⟩
  obtain ⟨fault, hfault⟩ := hr
  exact atMostWritten_of_ask_error hc hfault

/-- What a call that keeps a value comes to is what its attempts come to. -/
theorem run_succeeded {σ : Type} (answer : Surroundings ServerInterface σ)
    (m : Flow ServerInterface (Except Fault Unit)) (purpose : Purpose) (event : Event) (s : σ) :
    let run := ((m.bind (Client.complain purpose)).bind (succeeded event)).run answer s
    run.state = (m.run answer s).state
      ∧ (run.result = false → ∃ fault, (m.run answer s).result = .error fault) := by
  simp only [run_bind]
  cases (m.run answer s).result with
  | ok a => exact ⟨rfl, nofun⟩
  | error fault => exact ⟨rfl, fun _ => ⟨fault, rfl⟩⟩

/-- A command that writes, answered negatively. -/
theorem atMostWritten_of_succeeded_false {command : Command}
    (hcommand : ∀ now (s : Server), ∃ reply deadline,
      s.execute now command = (.ok reply, s.insert key ⟨value, deadline⟩)) (c : Client)
    (purpose : Purpose) (event : Event)
    (h : ((((c.execute (Client.ask command anyReply)).bind (Client.complain purpose)).bind
      (succeeded event)).run (answer fates) t).result = false) :
    AtMostWritten fates key value t
      ((((c.execute (Client.ask command anyReply)).bind (Client.complain purpose)).bind
        (succeeded event)).run (answer fates) t).state := by
  obtain ⟨hstate, hfault⟩ := run_succeeded (answer fates)
    (c.execute (Client.ask command anyReply)) purpose event t
  obtain ⟨fault, hfault⟩ := hfault h
  rw [hstate]
  exact atMostWritten_of_execute_error hcommand c hfault

/-- **A call that was to keep a value**, answered negatively. -/
theorem atMostWritten_of_set_false (c : Client) {lifetime : Int}
    (h : ((storeFlow c (.set key value lifetime)).run (answer fates) t).result = false) :
    AtMostWritten fates key value t
      ((storeFlow c (.set key value lifetime)).run (answer fates) t).state := by
  by_cases hpos : lifetime > 0
  · have hpositive : lifetime.toNat ≠ 0 := by omega
    have hcommand : ∀ now (s : Server), ∃ reply deadline,
        s.execute now (.setex key lifetime.toNat value)
          = (.ok reply, s.insert key ⟨value, deadline⟩) := fun _ _ => ⟨_, _, if_neg hpositive⟩
    rw [storeFlow, if_pos hpos] at h ⊢
    exact atMostWritten_of_succeeded_false hcommand c _ _ h
  · rw [storeFlow, if_neg hpos] at h ⊢
    exact atMostWritten_of_succeeded_false (fun _ _ => ⟨_, _, rfl⟩) c _ _ h

/-! ## Using up -/

/-- What a call that was to use up a record leaves when it counted none: nothing has changed, or
replies were lost and the record, which held the expected value, is gone. -/
structure AtMostRemoved (fates : Nat → Fate) (key expected : String) (t t' : Trial) : Prop where
  sent_le : t.sent ≤ t'.sent
  same : ¬ Unheard fates t t' → t'.server.records = t.server.records
  removed : t'.server.records = t.server.records
    ∨ (t.server.find? key).map (·.value) = some expected
      ∧ t'.server.records = t.server.records.erase key

theorem AtMostRemoved.trans (h : AtMostRemoved fates key expected t t')
    (h' : AtMostRemoved fates key expected t' t'') : AtMostRemoved fates key expected t t'' where
  sent_le := Nat.le_trans h.sent_le h'.sent_le
  same hunheard := by
    rw [unheard_trans h.sent_le h'.sent_le, not_or] at hunheard
    rw [h'.same hunheard.2, h.same hunheard.1]
  removed := by
    rcases h.removed with hsame | ⟨hheld, hgone⟩
    · have hremoved := h'.removed
      unfold Server.find? at hremoved ⊢
      rwa [hsame] at hremoved
    · rcases h'.removed with hsame | ⟨hheld', -⟩
      · exact .inr ⟨hheld, hsame.trans hgone⟩
      -- What is gone is not there to be used up once more.
      · rw [Server.find?, hgone, Keyed.find?_erase] at hheld'
        cases hheld'

/-- What leaves the records alone. -/
theorem atMostRemoved_of_records_eq (hsent : t.sent ≤ t'.sent)
    (h : t'.server.records = t.server.records) : AtMostRemoved fates key expected t t' :=
  ⟨hsent, fun _ => h, .inl h⟩

/-- All that the script can do. -/
theorem script_cases (s : Server) (now : Nat) (key expected : String) :
    (s.execute now (.runScript key expected)).2 = s
      ∨ (s.find? key).map (·.value) = some expected
        ∧ s.execute now (.runScript key expected) = (.ok (.int 1), s.erase key) := by
  rw [Server.execute]
  split
  · cases hheld : (s.present? now key).any (·.value == expected) with
    | false => exact .inl rfl
    | true =>
      obtain ⟨r, hr, hvalue⟩ := (Option.any_eq_true _ _).1 hheld
      refine .inr ⟨?_, rfl⟩
      rw [Server.find?_of_present? hr, Option.map_some, beq_iff_eq.1 hvalue]
  · exact .inl rfl

/-- No number, or the number zero. -/
def CountsNone (r : Except Fault UInt32) : Prop := ∀ n, r = .ok n → ¬ n > 0

/-- The script sent once: without a count that was heard, it is done in secret or not at all. -/
theorem atMostRemoved_of_ask_script (fates : Nat → Fate) (key expected : String) (t : Trial)
    (h : CountsNone ((Client.ask (.runScript key expected) asUInt32).run (answer fates) t).result) :
    AtMostRemoved fates key expected t
      ((Client.ask (.runScript key expected) asUInt32).run (answer fates) t).state := by
  have hresult : CountsNone
      ((t.server.meet t.clock (.runScript key expected) (fates t.sent)).1.bind asUInt32) := h
  have hstate : ((Client.ask (.runScript key expected) asUInt32).run (answer fates) t).state
      = { t with
          server := (t.server.meet t.clock (.runScript key expected) (fates t.sent)).2
          sent := t.sent + 1 } := rfl
  rw [hstate]
  rcases script_cases t.server t.clock key expected with hsame | ⟨hheld, hexecute⟩
  · refine atMostRemoved_of_records_eq (Nat.le_succ _) ?_
    simp only [Server.meet, hsame, ite_self]
  · cases hfate : fates t.sent with
    | answered =>
      rw [Server.meet, hfate, hexecute] at hresult
      exact absurd (by decide) (hresult 1 rfl)
    | unheard text =>
      simp only [Server.meet, Fate.executes, if_true, hexecute]
      refine ⟨Nat.le_succ _, fun h => absurd ?_ h, .inr ⟨hheld, rfl⟩⟩
      exact (unheard_of_sent_succ rfl).2 (by rw [hfate]; rfl)
    | lost text | refused fault => exact atMostRemoved_of_records_eq (Nat.le_succ _) rfl

/-- Teaching the script leaves the records alone. -/
theorem atMostRemoved_ask_loadScript (fates : Nat → Fate) (key expected : String) (t : Trial) :
    AtMostRemoved fates key expected t
      ((Client.ask .loadScript anyReply).run (answer fates) t).state := by
  refine atMostRemoved_of_records_eq (Nat.le_succ _) ?_
  change (t.server.meet t.clock .loadScript (fates t.sent)).2.records = _
  rw [Server.meet]
  split <;> rfl

/-- One attempt to use up a record, which may have to teach the script first. -/
theorem atMostRemoved_of_runScript
    (h : CountsNone ((Client.runScript key expected).run (answer fates) t).result) :
    AtMostRemoved fates key expected t
      ((Client.runScript key expected).run (answer fates) t).state := by
  have hfirst := atMostRemoved_of_ask_script fates key expected t
  rw [Client.runScript, run_bind] at h ⊢
  generalize (Client.ask (.runScript key expected) asUInt32).run (answer fates) t = first
    at h hfirst ⊢
  obtain ⟨result, events, t₁⟩ := first
  cases result with
  | ok n => exact hfirst h
  | error fault =>
    have hfirst := hfirst nofun
    simp only at h ⊢
    split at h
    · next hkind =>
      rw [if_pos hkind]
      have hload := atMostRemoved_ask_loadScript fates key expected t₁
      rw [run_bind] at h ⊢
      generalize (Client.ask .loadScript anyReply).run (answer fates) t₁ = second at h hload ⊢
      obtain ⟨result, events, t₂⟩ := second
      cases result with
      | ok _ => exact hfirst.trans (hload.trans (atMostRemoved_of_ask_script _ _ _ _ h))
      | error fault => exact hfirst.trans hload
    · next hkind =>
      rw [if_neg hkind]
      exact hfirst

/-- What a call that uses up a record comes to is what its attempts come to. -/
theorem run_counted {σ : Type} (answer : Surroundings ServerInterface σ)
    (m : Flow ServerInterface (Except Fault UInt32)) (purpose : Purpose) (event : Event) (s : σ) :
    let run := (((m.bind (Client.complain purpose)).map fun r => r.map fun n => decide (n > 0)).bind
      (orElse event false)).run answer s
    run.state = (m.run answer s).state
      ∧ (run.result = false → CountsNone (m.run answer s).result) := by
  simp only [run_bind, run_map]
  cases (m.run answer s).result with
  | ok n =>
    refine ⟨rfl, fun h m hm => ?_⟩
    obtain rfl := Except.ok.inj hm
    exact of_decide_eq_false h
  | error fault => exact ⟨rfl, fun _ => nofun⟩

/-- **A call that was to use up a record**, answered negatively. -/
theorem atMostRemoved_of_consume_false (c : Client)
    (h : ((storeFlow c (.consume key expected)).run (answer fates) t).result = false) :
    AtMostRemoved fates key expected t
      ((storeFlow c (.consume key expected)).run (answer fates) t).state := by
  obtain ⟨hstate, hcounts⟩ := run_counted (answer fates)
    (c.execute (Client.runScript key expected)) .compareAndDelete .storeConsumeFailed t
  have hleft : AtMostRemoved fates key expected t
      ((c.execute (Client.runScript key expected)).run (answer fates) t).state :=
    run_retry (R := AtMostRemoved fates key expected) CountsNone AtMostRemoved.trans
      (fun _ _ => atMostRemoved_of_records_eq (Nat.le_refl _) rfl)
      (fun _ => nofun) (fun _ _ => atMostRemoved_of_runScript) _ _ _ _ _ t (hcounts h)
  rw [← hstate] at hleft
  exact hleft

/-! ## Negative answers -/

/-- **A negative answer means that nothing has changed, up to replies that were lost.** When every
command that was executed was heard of, the server holds the records from before the call. When a
reply was lost, the value that was to be kept is kept in spite of the answer; and a record is gone
in spite of the answer only if it held the expected value and a reply was lost. -/
theorem changed_only_if_unheard (c : Client) (fates : Nat → Fate) (t : Trial) :
    (∀ key value lifetime,
      let run := (storeFlow c (.set key value lifetime)).run (answer fates) t
      run.result = false →
        (¬ Unheard fates t run.state → run.state.server = t.server)
        ∧ (Unheard fates t run.state →
          (∃ deadline, run.state.server.find? key = some ⟨value, deadline⟩)
          ∧ ∀ other, other ≠ key → run.state.server.find? other = t.server.find? other))
    ∧ ∀ key expected,
      let run := (storeFlow c (.consume key expected)).run (answer fates) t
      run.result = false →
        run.state.server.records = t.server.records
        ∨ Unheard fates t run.state ∧ (t.server.find? key).map (·.value) = some expected
          ∧ run.state.server.records = t.server.records.erase key := by
  constructor
  · intro key value lifetime run h
    have hleft := atMostWritten_of_set_false c h
    exact ⟨hleft.same, fun hunheard => ⟨hleft.wrote hunheard, hleft.frame⟩⟩
  · intro key expected run h
    have hleft := atMostRemoved_of_consume_false c h
    by_cases hunheard : Unheard fates t run.state
    · exact hleft.removed.imp_right fun hremoved => ⟨hunheard, hremoved⟩
    · exact .inl (hleft.same hunheard)

/-- A server that refuses every attempt keeps the old code. -/
theorem refused_write_changes_nothing :
    let t : Trial := ⟨⟨Keyed.insert {} "k" ⟨"old", none⟩, true⟩, 0, 0⟩
    let fates : Nat → Fate := fun _ => .refused (.signalled "LOADING" none)
    let run := (storeFlow ⟨3, 100⟩ (.set "k" "new" 60)).run (answer fates) t
    run.result = false ∧ run.state.sent = 3 ∧ run.state.server = t.server :=
  ⟨rfl, rfl, ((changed_only_if_unheard ⟨3, 100⟩ _ _).1 "k" "new" 60 rfl).1
    fun ⟨_, _, _, h⟩ => nomatch h⟩

/-- A client that makes one attempt, or two, and a reply that is lost: the code that was to be kept
replaces the old one although the answer is no, and the record that was to be used up is gone
although the answer is no. -/
theorem negative_answers_after_changes :
    let t : Trial := ⟨⟨Keyed.insert {} "k" ⟨"old", none⟩, true⟩, 0, 0⟩
    let set := (storeFlow ⟨1, 100⟩ (.set "k" "new" 60)).run
      (answer fun _ => .unheard "broken pipe") t
    let consume := (storeFlow ⟨2, 100⟩ (.consume "k" "old")).run
      (answer fun n => if n = 0 then .unheard "broken pipe" else .answered) t
    t.server.find? "k" = some ⟨"old", none⟩
      ∧ set.result = false ∧ set.state.server.find? "k" = some ⟨"new", some 60000⟩
      ∧ consume.result = false ∧ consume.state.server.find? "k" = none :=
  ⟨rfl, rfl, rfl, rfl, rfl⟩

end Trial

end Passcode.Redis
