import Passcode.Proofs.Flow.Breakdown
import Passcode.Redis.Store

/-!
# What the Redis store logs

All that a call of the store logs is known from the faults of its attempts: one event for each fault
after which there is another attempt, and two for the fault that ends the matter. Neither the key
nor a value enters.

The server may break down in the middle of an attempt. Then the faults are those of the attempts
before.

## Main definitions

* `faults` — the faults of the attempts
* `complaints`, `lastFault?` — what is logged about faults, and the fault that ends the matter
* `Client.report` — what a call of the store logs

## Main statements

* `retry_eq_complaints` — the loop over attempts
* `Client.events_storeFlow` — one call
-/

namespace Passcode

namespace StoreCall

/-- What a call means to do, in the words of complaints. -/
def purpose : StoreCall → Purpose
  | set _ _ lifetime => if lifetime > 0 then .setWithExpiry else .set
  | get _ => .get
  | contains _ => .probe
  | delete _ => .delete
  | consume .. => .compareAndDelete

/-- What the store logs before its first attempt. -/
def preface : StoreCall → List Event
  | set _ _ lifetime =>
    [if lifetime > 0 then .settingWithExpiry lifetime.toNat else .settingWithoutExpiry]
  | _ => []

/-- What the store logs when it has failed. -/
def failure : StoreCall → Event
  | set .. => .storeWriteFailed
  | get _ => .storeReadFailed
  | contains _ => .storeExistsFailed
  | delete _ => .storeDeleteFailed
  | consume .. => .storeConsumeFailed

end StoreCall

namespace Redis

open Passcode.Flow

variable {α β σ : Type} {server : Surroundings ServerInterface.Fragile σ}

/-- The fault with which something ended, if it did. -/
def fault? : Attempt (Except Fault α) → Option Fault
  | .done (.error fault) => some fault
  | _ => none

/-! ## The loop over attempts -/

/-- The faults of the attempts, when `left` further ones may follow the first. -/
def faults (server : Surroundings ServerInterface.Fragile σ)
    (attempt : Flow ServerInterface (Except Fault α)) : Nat → UInt64 → σ → List Fault
  | 0, _, s => (fault? (attempt.fragile.run server s).result).toList
  | left + 1, delay, s =>
    match fault? (attempt.fragile.run server s).result with
    | none => []
    | some fault =>
      fault ::
        if fault.isRetriable then
          let pause := server (.pause delay.toNat) (attempt.fragile.run server s).state
          match pause.result with
          | .done _ => faults server attempt left (nextDelay delay) pause.state
          | .panicked _ => []
        else []

/-- What is logged about faults: all that another attempt follows. -/
def complaints (limit : Nat) : Nat → Nat → UInt64 → List Fault → List Event
  | left + 1, number, delay, fault :: rest =>
    if fault.isRetriable then
      .commandRetry number limit delay.toNat fault
        :: complaints limit left (number + 1) (nextDelay delay) rest
    else []
  | _, _, _, _ => []

/-- The fault that no further attempt follows. -/
def lastFault? : Nat → List Fault → Option Fault
  | _, [] => none
  | 0, fault :: _ => some fault
  | left + 1, fault :: rest => if fault.isRetriable then lastFault? left rest else some fault

/-- **The loop over attempts** logs the complaints about the faults, and ends with a fault if one of
them was the last. -/
theorem retry_eq_complaints {attempt : Flow ServerInterface (Except Fault α)}
    (hsilent : ∀ millis s, (server (.pause millis) s).events = [])
    (hattempt : ∀ s, (attempt.fragile.run server s).events = []) (limit left number : Nat)
    (delay : UInt64) (s : σ) :
    let run := (retry (fun _ => attempt) Fault.isRetriable
      (fun n d fault => .commandRetry n limit d fault) left number delay).fragile.run server s
    run.events = complaints limit left number delay (faults server attempt left delay s)
      ∧ fault? run.result = lastFault? left (faults server attempt left delay s) := by
  induction left generalizing number delay s with
  | zero =>
    simp only [retry, faults]
    refine ⟨(hattempt s).trans rfl, ?_⟩
    cases fault? (attempt.fragile.run server s).result <;> rfl
  | succ left ih =>
    have hevents := hattempt s
    simp only [retry, faults, fragile_bind, run_bind, hevents, List.nil_append]
    generalize attempt.fragile.run server s = first
    obtain ⟨result, events, t⟩ := first
    rcases result with (fault | a) | reason
    · simp only [orBreak_done, fault?, complaints, lastFault?]
      cases fault.isRetriable with
      | false => exact ⟨rfl, rfl⟩
      | true =>
        have hpause := hsilent delay.toNat t
        simp only [if_true, fragile, run]
        generalize server (.pause delay.toNat) t = pause at hpause ⊢
        obtain ⟨result, events, u⟩ := pause
        obtain rfl : events = [] := hpause
        cases result with
        | done _ =>
          obtain ⟨hevents, hfault⟩ := ih (number + 1) (nextDelay delay) u
          exact ⟨congrArg _ hevents, hfault⟩
        | panicked reason =>
          cases left <;> exact ⟨rfl, rfl⟩
    · exact ⟨rfl, rfl⟩
    · exact ⟨rfl, rfl⟩

/-! ## One attempt -/

/-- A server that logs nothing itself. -/
def Silent (server : Surroundings ServerInterface.Fragile σ) : Prop :=
  ∀ q s, (server q s).events = []

namespace Client

theorem events_ask (h : Silent server) (command : Command) (read : Conversion α) (s : σ) :
    ((ask command read).fragile.run server s).events = [] := by
  have hsend := h (.send command) s
  simp only [ask, fragile, run]
  rw [hsend]
  cases (server (.send command) s).result <;> rfl

theorem events_runScript (h : Silent server) (key expected : String) (s : σ) :
    ((runScript key expected).fragile.run server s).events = [] := by
  simp only [runScript, fragile_bind, run_bind, events_ask h, List.nil_append]
  rcases ((ask (.runScript key expected) asUInt32).fragile.run server s).result with
    (fault | n) | reason
  · simp only [orBreak_done]
    split
    · simp only [fragile_bind, run_bind, events_ask h, List.nil_append]
      generalize (ask .loadScript anyReply).fragile.run server _ = taught
      obtain ⟨result, -, t⟩ := taught
      rcases result with (fault | _) | reason
      · rfl
      · exact events_ask h _ _ t
      · rfl
    · rfl
  · rfl
  · rfl

end Client

/-! ## One call -/

namespace Client

/-- The faults of the attempts of a call. -/
def faultsOf (c : Client) (server : Surroundings ServerInterface.Fragile σ) :
    StoreCall → σ → List Fault
  | .set key value lifetime =>
    faults server (ask (if lifetime > 0 then .setex key lifetime.toNat value else .set key value)
      anyReply) (c.maxAttempts - 1) c.delay
  | .get key => faults server (ask (.get key) asOptionalText) (c.maxAttempts - 1) c.delay
  | .contains key => faults server (ask (.has key) asBool) (c.maxAttempts - 1) c.delay
  | .delete key => faults server (ask (.del key) asUInt32) (c.maxAttempts - 1) c.delay
  | .consume key expected => faults server (runScript key expected) (c.maxAttempts - 1) c.delay

/-- What a call logs, given the faults of its attempts. -/
def report (c : Client) (call : StoreCall) (faults : List Fault) : List Event :=
  call.preface ++ complaints c.maxAttempts (c.maxAttempts - 1) 1 c.delay faults
    ++ match lastFault? (c.maxAttempts - 1) faults with
      | some fault => [.commandFailed call.purpose fault, call.failure]
      | none => []

/-- The events of the last two steps of every call: the complaint, and the negative answer. -/
theorem events_finish {attempts : Flow ServerInterface (Except Fault α)} (purpose : Purpose)
    {finish : Except Fault α → Flow ServerInterface β} {event : Event}
    (hok : ∀ a s, ((finish (.ok a)).fragile.run server s).events = [])
    (herror : ∀ fault s, ((finish (.error fault)).fragile.run server s).events = [event]) (s : σ) :
    (((attempts.bind (complain purpose)).bind finish).fragile.run server s).events
      = (attempts.fragile.run server s).events
        ++ match fault? (attempts.fragile.run server s).result with
          | some fault => [.commandFailed purpose fault, event]
          | none => [] := by
  simp only [fragile_bind, run_bind, List.append_assoc]
  refine congrArg _ ?_
  rcases (attempts.fragile.run server s).result with (fault | a) | reason
  · simp only [orBreak_done, complain, fragile, run, fault?]
    exact congrArg (.commandFailed purpose fault :: ·) (herror fault _)
  · simp only [orBreak_done, complain, fragile, run, fault?]
    exact hok a _
  · rfl

/-- The attempts of a call with its last two steps. -/
theorem events_execute (h : Silent server) (c : Client)
    {attempt : Flow ServerInterface (Except Fault α)}
    (hattempt : ∀ s, (attempt.fragile.run server s).events = []) (purpose : Purpose)
    {finish : Except Fault α → Flow ServerInterface β} {event : Event}
    (hok : ∀ a s, ((finish (.ok a)).fragile.run server s).events = [])
    (herror : ∀ fault s, ((finish (.error fault)).fragile.run server s).events = [event]) (s : σ) :
    ((((c.execute attempt).bind (complain purpose)).bind finish).fragile.run server s).events
      = complaints c.maxAttempts (c.maxAttempts - 1) 1 c.delay
          (faults server attempt (c.maxAttempts - 1) c.delay s)
        ++ match lastFault? (c.maxAttempts - 1)
            (faults server attempt (c.maxAttempts - 1) c.delay s) with
          | some fault => [.commandFailed purpose fault, event]
          | none => [] := by
  obtain ⟨hevents, hfault⟩ := retry_eq_complaints (fun _ => h _) hattempt c.maxAttempts
    (c.maxAttempts - 1) 1 c.delay s
  rw [events_finish purpose hok herror, execute, hevents, hfault]

/-- **One call** logs what its report says. -/
theorem events_storeFlow (h : Silent server) (c : Client) (call : StoreCall) (s : σ) :
    ((storeFlow c call).fragile.run server s).events
      = c.report call (c.faultsOf server call s) := by
  cases call with
  | set key value lifetime =>
    have hok : ∀ (a : Unit) (s : σ),
        ((succeeded .storeWriteFailed (.ok a)).fragile.run server s).events = [] := fun _ _ => rfl
    have herror : ∀ fault (s : σ), ((succeeded .storeWriteFailed (.error fault)).fragile.run server
        s).events = [.storeWriteFailed] := fun _ _ => rfl
    by_cases hpos : lifetime > 0
    · simp only [storeFlow, report, faultsOf, StoreCall.preface, StoreCall.purpose, if_pos hpos]
      exact congrArg _ (events_execute h c (events_ask h _ _) _ hok herror s)
    · simp only [storeFlow, report, faultsOf, StoreCall.preface, StoreCall.purpose, if_neg hpos]
      exact congrArg _ (events_execute h c (events_ask h _ _) _ hok herror s)
  | get key =>
    exact events_execute h c (events_ask h _ _) .get (fun _ _ => rfl) (fun _ _ => rfl) s
  | contains key =>
    exact events_execute h c (events_ask h _ _) .probe (fun _ _ => rfl) (fun _ _ => rfl) s
  | delete key =>
    refine (congrArg (fun m : Flow ServerInterface Bool => (m.fragile.run server s).events)
      (bind_assoc _ _ _)).trans ?_
    exact events_execute h c (events_ask h _ _) .delete (fun _ _ => rfl) (fun _ _ => rfl) s
  | consume key expected =>
    refine (congrArg (fun m : Flow ServerInterface Bool => (m.fragile.run server s).events)
      (bind_assoc _ _ _)).trans ?_
    exact events_execute h c (events_runScript h _ _) .compareAndDelete (fun _ _ => rfl)
      (fun _ _ => rfl) s

end Client

end Redis

end Passcode
