import Mathlib.Data.List.DropRight
import Passcode.Delivery.Mock

/-!
# The books of the channel that only logs

The channel keeps a count that can be reset, and the last message to each recipient, which a reset
leaves alone. Whatever was done with a new channel, both are determined by what it answered: they
tell of the messages that it said it sent, the count of those since the last reset. What it answers
in turn is determined by the last time a failure was switched on or off.

## Main definitions

* `Operation`, `Call`, `run` — what is done with the channel, and the history of a run
* `accepted`, `sinceReset`, `isFailing` — what can be told from a history alone
* `Books` — the state of the channel is what its history tells

## Main statements

* `Books.perform`, `Books.run` — one operation keeps the books right, and so does a run
* `books_follow_history` — the books after every run of a new channel
-/

namespace Passcode.MockChannel

/-! ## Operations and histories -/

/-- What can be done with the channel. -/
inductive Operation where
  | send (id : String) (m : Message)
  | setFailing (on : Bool)
  | resetCount
  | count
  | lastFor (recipient : String)
deriving DecidableEq

/-- What an operation answers. -/
inductive Answer where
  | delivery (d : Delivery)
  | number (n : Nat)
  | message (m? : Option Message)
  | nothing
deriving DecidableEq

/-- An operation that was performed, and what it answered. -/
structure Call where
  operation : Operation
  answer : Answer
deriving DecidableEq

/-- The answer of an operation, and the channel afterwards. -/
def Operation.perform (c : MockChannel) : Operation → Answer × MockChannel
  | send id m => (.delivery (c.send id m).delivery, (c.send id m).channel)
  | setFailing on => (.nothing, c.setFailing on)
  | resetCount => (.nothing, c.resetCount)
  | count => (.number c.count, c)
  | lastFor recipient => (.message (c.lastFor? recipient), c)

/-- The history of some operations, and the channel after them. -/
def run (c : MockChannel) : List Operation → List Call × MockChannel
  | [] => ([], c)
  | op :: ops =>
    let (answer, c) := op.perform c
    let (history, c) := run c ops
    (⟨op, answer⟩ :: history, c)

/-! ## What a history tells -/

/-- The message of a call that sent one. -/
def Call.accepted? : Call → Option Message
  | ⟨.send _ m, .delivery (.sent _)⟩ => some m
  | _ => none

/-- The messages that were sent. -/
def accepted (history : List Call) : List Message := history.filterMap Call.accepted?

/-- The calls after the last reset of the count. -/
def sinceReset (history : List Call) : List Call :=
  history.rtakeWhile fun call => call.operation ≠ .resetCount

/-- What a call switches the simulation of a failure to. -/
def Call.switch? : Call → Option Bool
  | ⟨.setFailing on, _⟩ => some on
  | _ => none

/-- Whether a failure is simulated after a history that started as given. -/
def isFailing (start : Bool) (history : List Call) : Bool :=
  (history.filterMap Call.switch?).getLast?.getD start

/-- The messages that were sent to a recipient. -/
def acceptedFor (recipient : String) (history : List Call) : List Message :=
  (accepted history).filter (·.recipient = recipient)

section

variable {start : Bool} {history : List Call} {call : Call} {m : Message}

theorem accepted_concat_of_none (h : call.accepted? = none) :
    accepted (history ++ [call]) = accepted history := by
  simp [accepted, h]

theorem accepted_concat_of_some (h : call.accepted? = some m) :
    accepted (history ++ [call]) = accepted history ++ [m] := by
  simp [accepted, h]

theorem sinceReset_concat (h : call.operation ≠ .resetCount) :
    sinceReset (history ++ [call]) = sinceReset history ++ [call] := by
  rw [sinceReset, List.rtakeWhile_concat, if_pos (by simpa using h), sinceReset]

theorem sinceReset_concat_reset (h : call.operation = .resetCount) :
    sinceReset (history ++ [call]) = [] := by
  rw [sinceReset, List.rtakeWhile_concat, if_neg (by simpa using h)]

theorem isFailing_concat_of_none (h : call.switch? = none) :
    isFailing start (history ++ [call]) = isFailing start history := by
  simp [isFailing, h]

theorem isFailing_concat_of_some {on : Bool} (h : call.switch? = some on) :
    isFailing start (history ++ [call]) = on := by
  simp [isFailing, h]

end

/-! ## The books -/

/-- The state of a channel is what its history tells. -/
structure Books (start : Bool) (history : List Call) (c : MockChannel) : Prop where
  failing : c.failing = isFailing start history
  count : c.count = (accepted (sinceReset history)).length
  last : ∀ recipient, c.lastFor? recipient = (acceptedFor recipient history).getLast?

/-- The reason that a refused message is given. -/
def refusal : String := "Simulated email delivery failure"

theorem send_of_failing {c : MockChannel} (h : c.failing = true) (id : String) (m : Message) :
    (c.send id m).delivery = .failed refusal ∧ (c.send id m).channel = c := by
  simp [send, h, refusal]

theorem send_of_not_failing {c : MockChannel} (h : c.failing = false) (id : String) (m : Message) :
    (c.send id m).delivery = .sent id
      ∧ (c.send id m).channel
        = { c with count := c.count + 1, last := c.last.insert m.recipient m } := by
  simp [send, h]

namespace Books

variable {start : Bool} {history : List Call} {c : MockChannel}

/-- A call that sends nothing, resets nothing and switches nothing keeps the books as they are. -/
theorem concat_of_idle (h : Books start history c) {call : Call} (hsent : call.accepted? = none)
    (hreset : call.operation ≠ .resetCount) (hswitch : call.switch? = none) :
    Books start (history ++ [call]) c where
  failing := by rw [isFailing_concat_of_none hswitch, h.failing]
  count := by rw [sinceReset_concat hreset, accepted_concat_of_none hsent, h.count]
  last recipient := by rw [acceptedFor, accepted_concat_of_none hsent, h.last, acceptedFor]

/-- A call that sends a message enters it in the books. -/
theorem concat_of_sent (h : Books start history c) (id : String) (m : Message) :
    Books start (history ++ [⟨.send id m, .delivery (.sent id)⟩])
      { c with count := c.count + 1, last := c.last.insert m.recipient m } where
  failing := by rw [isFailing_concat_of_none rfl, h.failing]
  count := by
    rw [sinceReset_concat (by simp), accepted_concat_of_some rfl, List.length_append, h.count]
    rfl
  last recipient := by
    rw [acceptedFor, accepted_concat_of_some (m := m) rfl, List.filter_append, lastFor?]
    by_cases hm : m.recipient = recipient
    · subst hm
      simp
    · rw [Keyed.find?_insert_of_ne (Ne.symm hm), List.filter_singleton, decide_eq_false hm,
        cond_false, List.append_nil]
      exact h.last recipient

/-- A reset sets the count to zero and leaves the last messages alone. -/
theorem concat_of_reset (h : Books start history c) :
    Books start (history ++ [⟨.resetCount, .nothing⟩]) c.resetCount where
  failing := by
    rw [isFailing_concat_of_none rfl]
    exact h.failing
  count := by
    rw [sinceReset_concat_reset rfl]
    rfl
  last recipient := by
    rw [acceptedFor, accepted_concat_of_none rfl]
    exact h.last recipient

/-- A switch leaves the count and the last messages alone. -/
theorem concat_of_switch (h : Books start history c) (on : Bool) :
    Books start (history ++ [⟨.setFailing on, .nothing⟩]) (c.setFailing on) where
  failing := by
    rw [isFailing_concat_of_some rfl]
    rfl
  count := by
    rw [sinceReset_concat (by simp), accepted_concat_of_none rfl]
    exact h.count
  last recipient := by
    rw [acceptedFor, accepted_concat_of_none rfl]
    exact h.last recipient

/-- **One operation keeps the books right.** -/
theorem perform (h : Books start history c) (op : Operation) :
    Books start (history ++ [⟨op, (op.perform c).1⟩]) (op.perform c).2 := by
  cases op with
  | send id m =>
    cases hfailing : c.failing with
    | true =>
      obtain ⟨hdelivery, hchannel⟩ := send_of_failing hfailing id m
      simp only [Operation.perform, hdelivery, hchannel]
      exact h.concat_of_idle rfl (by simp) rfl
    | false =>
      obtain ⟨hdelivery, hchannel⟩ := send_of_not_failing hfailing id m
      simp only [Operation.perform, hdelivery, hchannel]
      exact h.concat_of_sent id m
  | setFailing on => exact h.concat_of_switch on
  | resetCount => exact h.concat_of_reset
  | count => exact h.concat_of_idle rfl (by simp) rfl
  | lastFor recipient => exact h.concat_of_idle rfl (by simp) rfl

/-- A run keeps the books right. -/
theorem run (ops : List Operation) (h : Books start history c) :
    Books start (history ++ (c.run ops).1) (c.run ops).2 := by
  induction ops generalizing history c with
  | nil => simpa [MockChannel.run] using h
  | cons op ops ih => simpa [MockChannel.run] using ih (h.perform op)

end Books

theorem books_new (prints failing : Bool) : Books failing [] { prints, failing } :=
  ⟨rfl, rfl, fun _ => rfl⟩

/-! ## Bounds -/

/-- Whether an operation sends a message. -/
def Operation.isSend : Operation → Bool
  | send .. => true
  | _ => false

theorem count_perform_le (c : MockChannel) (op : Operation) :
    (op.perform c).2.count ≤ c.count + [op].countP Operation.isSend := by
  cases op with
  | send id m =>
    cases hfailing : c.failing with
    | true => simp [Operation.perform, send_of_failing hfailing]
    | false => simp [Operation.perform, send_of_not_failing hfailing, Operation.isSend]
  | setFailing on => exact Nat.le_add_right _ _
  | resetCount => exact Nat.zero_le _
  | count => exact Nat.le_add_right _ _
  | lastFor recipient => exact Nat.le_add_right _ _

theorem count_run_le (c : MockChannel) (ops : List Operation) :
    (c.run ops).2.count ≤ c.count + ops.countP Operation.isSend := by
  induction ops generalizing c with
  | nil => exact Nat.le_add_right _ _
  | cons op ops ih =>
    have hfirst := count_perform_le c op
    have hrest := ih (op.perform c).2
    rw [← List.singleton_append, List.countP_append]
    exact hrest.trans (by omega)

/-! ## After every run -/

/-- **The books follow the history** of a new channel, whatever is done with it. The count is that
of the messages sent since the last reset, and no larger than the number of attempts, so fewer than
`2 ^ 64` of them never exceed a word. The last message to a recipient is the last one sent to it,
resets notwithstanding. A message is refused exactly while a failure is simulated, and the channel
is left as it is then. -/
theorem books_follow_history (prints failing : Bool) (ops : List Operation) :
    let start : MockChannel := { prints, failing }
    let history := (start.run ops).1
    let c := (start.run ops).2
    c.count = (accepted (sinceReset history)).length
      ∧ c.count ≤ ops.countP Operation.isSend
      ∧ (∀ recipient, c.lastFor? recipient = (acceptedFor recipient history).getLast?)
      ∧ ∀ id m, (c.send id m).delivery
          = (if isFailing failing history then .failed refusal else .sent id)
        ∧ (isFailing failing history = true → (c.send id m).channel = c) := by
  intro start history c
  have hbooks : Books failing history c := (books_new prints failing).run ops
  have hcount : c.count ≤ 0 + ops.countP Operation.isSend := count_run_le start ops
  refine ⟨hbooks.count, by omega, hbooks.last, fun id m => ?_⟩
  rw [← hbooks.failing]
  cases hfailing : c.failing with
  | true =>
    obtain ⟨hdelivery, hchannel⟩ := send_of_failing hfailing id m
    exact ⟨hdelivery, fun _ => hchannel⟩
  | false =>
    obtain ⟨hdelivery, -⟩ := send_of_not_failing hfailing id m
    exact ⟨hdelivery, fun h => absurd h (by decide)⟩

/-- A reset empties the count and keeps the last messages, and a message that is refused meanwhile
shows in neither. -/
theorem reset_and_refusal_between_messages :
    let message (recipient text : String) : Message :=
      { recipient, sender := "VeriMail <no-reply@localhost>", subject := "", text, html? := none }
    let start : MockChannel := { prints := false, failing := false }
    let ops : List Operation :=
      [.send "1" (message "a@x.com" "first"), .send "2" (message "b@x.com" "other"), .resetCount,
        .send "3" (message "b@x.com" "second"), .setFailing true,
        .send "4" (message "a@x.com" "refused")]
    let c := (start.run ops).2
    isFailing false (start.run ops).1 = true ∧ c.count = 1
      ∧ c.lastFor? "a@x.com" = some (message "a@x.com" "first")
      ∧ c.lastFor? "b@x.com" = some (message "b@x.com" "second")
      ∧ (c.send "5" (message "b@x.com" "third")).channel = c := by
  intro message start ops c
  obtain ⟨hcount, -, hlast, hsend⟩ := books_follow_history false false ops
  have hfailing : isFailing false (start.run ops).1 = true := by decide
  refine ⟨hfailing, hcount.trans ?_, (hlast _).trans ?_, (hlast _).trans ?_,
    (hsend "5" (message "b@x.com" "third")).2 hfailing⟩
  all_goals decide

end Passcode.MockChannel
