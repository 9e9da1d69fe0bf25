import Mathlib.Algebra.Group.Nat.Defs
import Mathlib.Data.Nat.Find
import Mathlib.Order.Bounds.Defs
import Passcode.Proofs.Flow.Run
import Passcode.Redis.Client

/-!
# The series of attempts

What is attempted against a server again and again makes an endless series of attempts, each with an
outcome of its own and a pause after it. The loop over attempts follows this series up to the first
outcome that settles the matter, or up to the last attempt that it is allowed, and no further. So
the number of attempts depends on the outcomes alone, and there is one pause less.

## Main definitions

* `delayAfter`, `pauseAfter` — the pauses, doubled and cut, as words and as numbers
* `Settles` — an outcome after which there is no further attempt
* `Series` — an endless series of attempts, each followed by a pause
* `lookUp` — attempts that come to any given sequence of outcomes

## Main statements

* `retry_of_settles`, `retry_of_not_settles` — one attempt of the loop
* `retry_follows_series`, `retry_of_isLeast` — the loop as a whole
* `outcome_lookUp` — every sequence of outcomes comes about
* `Client.execute_follows_outcomes` — the attempts and pauses of a command, from the outcomes
-/

namespace Passcode.Redis

open Passcode.Flow

variable {α σ : Type}

/-! ## The length of pauses -/

/-- The pause after an attempt, counted from zero. -/
def delayAfter (delay : UInt64) : Nat → UInt64
  | 0 => delay
  | k + 1 => nextDelay (delayAfter delay k)

/-- The milliseconds after an attempt: first as configured, then each time twice as many, cut to
five seconds. -/
def pauseAfter (delay : Nat) : Nat → Nat
  | 0 => delay
  | k + 1 => min (2 * pauseAfter delay k) 5000

theorem toNat_maxDelay : maxDelay.toNat = 5000 := rfl

theorem toNat_nextDelay (delay : UInt64) :
    (nextDelay delay).toNat = min (delay.toNat * 2 % 2 ^ 64) maxDelay.toNat := by
  have hdouble : (delay * 2).toNat = delay.toNat * 2 % 2 ^ 64 := UInt64.toNat_mul delay 2
  have hmin : nextDelay delay = if delay * 2 ≤ maxDelay then delay * 2 else maxDelay := rfl
  rw [hmin, ← hdouble]
  split
  · next h => exact (Nat.min_eq_left (UInt64.le_iff_toNat_le.1 h)).symm
  · next h => exact (Nat.min_eq_right (by rw [UInt64.le_iff_toNat_le] at h; omega)).symm

/-- A doubled pause is cut. -/
theorem nextDelay_le (delay : UInt64) : (nextDelay delay).toNat ≤ maxDelay.toNat := by
  rw [toNat_nextDelay]
  exact Nat.min_le_right _ _

theorem delayAfter_succ_le (delay : UInt64) (k : Nat) :
    (delayAfter delay (k + 1)).toNat ≤ maxDelay.toNat :=
  nextDelay_le _

/-- The pauses after the first are those of a loop that starts with the second. -/
theorem delayAfter_nextDelay (delay : UInt64) (k : Nat) :
    delayAfter (nextDelay delay) k = delayAfter delay (k + 1) := by
  induction k with
  | zero => rfl
  | succ k ih => rw [delayAfter, ih, ← delayAfter]

/-- Doubling does not overflow if it does not at first. -/
theorem toNat_delayAfter {delay : UInt64} (h : delay.toNat < 2 ^ 63) (k : Nat) :
    (delayAfter delay k).toNat = pauseAfter delay.toNat k := by
  induction k with
  | zero => rfl
  | succ k ih =>
    have hsmall : (delayAfter delay k).toNat < 2 ^ 63 := by
      cases k with
      | zero => exact h
      | succ k =>
        have hle := delayAfter_succ_le delay k
        rw [toNat_maxDelay] at hle
        omega
    rw [delayAfter, toNat_nextDelay, pauseAfter, ← ih, toNat_maxDelay, Nat.mul_comm,
      Nat.mod_eq_of_lt (by omega)]

/-! ## One attempt of the loop -/

/-- No attempt follows one with this outcome: it succeeded, or its fault will not pass. -/
def Settles (isRetriable : Fault → Bool) : Except Fault α → Prop
  | .ok _ => True
  | .error fault => isRetriable fault = false

theorem exists_fault_of_not_settles {isRetriable : Fault → Bool} {r : Except Fault α}
    (h : ¬Settles isRetriable r) : ∃ fault, r = .error fault ∧ isRetriable fault = true := by
  cases r with
  | ok a => exact absurd trivial h
  | error fault => exact ⟨fault, rfl, by simpa [Settles] using h⟩

section Step

variable {attempt : Nat → Flow ServerInterface (Except Fault α)} {isRetriable : Fault → Bool}
  (complaint : Nat → Nat → Fault → Event) (left : Nat) {number : Nat} (delay : UInt64)
  {server : Surroundings ServerInterface σ} {s : σ}

/-- An attempt that settles the matter is the last. -/
theorem retry_of_settles (h : Settles isRetriable ((attempt number).run server s).result) :
    ((retry attempt isRetriable complaint left number delay).run server s).result
        = ((attempt number).run server s).result
      ∧ (retry attempt isRetriable complaint left number delay).trace server s
        = (attempt number).trace server s := by
  cases left with
  | zero => exact ⟨rfl, rfl⟩
  | succ left =>
    rw [retry, run_bind, trace_bind]
    generalize ((attempt number).run server s).result = r at h
    cases r with
    | ok a => exact ⟨rfl, List.append_nil _⟩
    | error fault =>
      have hfault : isRetriable fault = false := h
      simp only [hfault]
      exact ⟨rfl, List.append_nil _⟩

/-- An attempt that does not settle the matter is followed by a pause, and by the attempts that are
left. -/
theorem retry_of_not_settles
    (h : ¬Settles isRetriable ((attempt number).run server s).result) :
    let next := (server (.pause delay.toNat) ((attempt number).run server s).state).state
    let rest := retry attempt isRetriable complaint left (number + 1) (nextDelay delay)
    ((retry attempt isRetriable complaint (left + 1) number delay).run server s).result
        = (rest.run server next).result
      ∧ (retry attempt isRetriable complaint (left + 1) number delay).trace server s
        = (attempt number).trace server s
          ++ ⟨.pause delay.toNat, ()⟩ :: rest.trace server next := by
  intro next rest
  obtain ⟨fault, hresult, hfault⟩ := exists_fault_of_not_settles h
  rw [retry, run_bind, trace_bind, hresult]
  simp only [hfault, if_true]
  exact ⟨rfl, rfl⟩

end Step

/-! ## The series of attempts -/

/-- An endless series of attempts against a server, counted from zero, each followed by a pause of
some milliseconds. -/
structure Series (σ α : Type) where
  server : Surroundings ServerInterface σ
  attempt : Nat → Flow ServerInterface (Except Fault α)
  pause : Nat → Nat
  start : σ

namespace Series

/-- What an attempt is made in. -/
def state (x : Series σ α) : Nat → σ
  | 0 => x.start
  | k + 1 => (x.server (.pause (x.pause k)) ((x.attempt k).run x.server (x.state k)).state).state

/-- What an attempt comes to. -/
def outcome (x : Series σ α) (k : Nat) : Except Fault α :=
  ((x.attempt k).run x.server (x.state k)).result

/-- The exchanges of an attempt. -/
def asked (x : Series σ α) (k : Nat) : List (Exchange ServerInterface) :=
  (x.attempt k).trace x.server (x.state k)

/-- The exchanges up to the end of an attempt, with the pauses before it. -/
def exchanges (x : Series σ α) : Nat → List (Exchange ServerInterface)
  | 0 => x.asked 0
  | k + 1 => x.exchanges k ++ ⟨.pause (x.pause k), ()⟩ :: x.asked (k + 1)

/-- The series from its second attempt on. -/
def tail (x : Series σ α) : Series σ α where
  server := x.server
  attempt k := x.attempt (k + 1)
  pause k := x.pause (k + 1)
  start := x.state 1

theorem state_tail (x : Series σ α) (k : Nat) : x.tail.state k = x.state (k + 1) := by
  induction k with
  | zero => rfl
  | succ k ih =>
    rw [state, ih]
    rfl

theorem outcome_tail (x : Series σ α) (k : Nat) : x.tail.outcome k = x.outcome (k + 1) := by
  rw [outcome, state_tail, outcome, tail]

theorem asked_tail (x : Series σ α) (k : Nat) : x.tail.asked k = x.asked (k + 1) := by
  rw [asked, state_tail, asked, tail]

/-- The exchanges of a series begin with those of its first attempt. -/
theorem exchanges_tail (x : Series σ α) (k : Nat) :
    x.exchanges (k + 1) = x.asked 0 ++ ⟨.pause (x.pause 0), ()⟩ :: x.tail.exchanges k := by
  induction k with
  | zero => rw [exchanges, exchanges, exchanges, asked_tail]
  | succ k ih =>
    rw [exchanges, ih, exchanges, asked_tail, List.append_assoc, List.cons_append]
    rfl

/-- The series of a loop. -/
def ofLoop (server : Surroundings ServerInterface σ)
    (attempt : Nat → Flow ServerInterface (Except Fault α)) (number : Nat) (delay : UInt64)
    (s : σ) : Series σ α where
  server := server
  attempt k := attempt (number + k)
  pause k := (delayAfter delay k).toNat
  start := s

/-- After its first attempt a loop goes on as a loop with one attempt less. -/
theorem tail_ofLoop (server : Surroundings ServerInterface σ)
    (attempt : Nat → Flow ServerInterface (Except Fault α)) (number : Nat) (delay : UInt64)
    (s : σ) :
    (ofLoop server attempt number delay s).tail
      = ofLoop server attempt (number + 1) (nextDelay delay)
        (server (.pause delay.toNat) ((attempt number).run server s).state).state := by
  have hattempt : (fun k => attempt (number + (k + 1))) = fun k => attempt (number + 1 + k) :=
    funext fun k => congrArg attempt (by omega)
  simp only [tail, ofLoop, hattempt, delayAfter_nextDelay]
  rfl

end Series

open Series

/-- There is a first attempt that settles the matter, or that is the last one allowed. -/
theorem exists_isLeast_attempt (isRetriable : Fault → Bool) (o : Nat → Except Fault α)
    (left : Nat) : ∃ last, IsLeast {k | Settles isRetriable (o k) ∨ k = left} last := by
  classical
  have hsome : ∃ k, Settles isRetriable (o k) ∨ k = left := ⟨left, .inr rfl⟩
  exact ⟨Nat.find hsome, Nat.find_spec hsome, fun k hk => Nat.find_min' hsome hk⟩

/-- **The loop over attempts** follows the series up to its first attempt that settles the matter,
or up to the last one allowed. -/
theorem retry_follows_series (attempt : Nat → Flow ServerInterface (Except Fault α))
    (isRetriable : Fault → Bool) (complaint : Nat → Nat → Fault → Event) (left number : Nat)
    (delay : UInt64) (server : Surroundings ServerInterface σ) (s : σ) {last : Nat}
    (hbefore : ∀ k < last, ¬Settles isRetriable ((ofLoop server attempt number delay s).outcome k))
    (hlast : Settles isRetriable ((ofLoop server attempt number delay s).outcome last)
      ∨ last = left) (hle : last ≤ left) :
    ((retry attempt isRetriable complaint left number delay).run server s).result
        = (ofLoop server attempt number delay s).outcome last
      ∧ (retry attempt isRetriable complaint left number delay).trace server s
        = (ofLoop server attempt number delay s).exchanges last := by
  induction last generalizing left number delay s with
  | zero =>
    rcases hlast with hsettles | rfl
    · exact retry_of_settles complaint left delay hsettles
    · exact ⟨rfl, rfl⟩
  | succ last ih =>
    -- after the first attempt, what is left of the loop follows the series from its second attempt
    obtain ⟨left, rfl⟩ : ∃ n, left = n + 1 := ⟨left - 1, by omega⟩
    have hfirst : ¬Settles isRetriable ((attempt number).run server s).result :=
      hbefore 0 (Nat.succ_pos last)
    obtain ⟨hresult, htrace⟩ := retry_of_not_settles complaint left delay hfirst
    have hrest := ih left (number + 1) (nextDelay delay)
      (server (.pause delay.toNat) ((attempt number).run server s).state).state
    rw [← tail_ofLoop] at hrest
    simp only [outcome_tail] at hrest
    obtain ⟨hresult', htrace'⟩ := hrest (fun k hk => hbefore (k + 1) (by omega))
      (hlast.imp_right (by omega)) (by omega)
    refine ⟨hresult.trans hresult', htrace.trans ?_⟩
    rw [htrace', exchanges_tail]
    rfl

/-- The loop over attempts ends with the first one that settles the matter, or that is the last one
allowed. -/
theorem retry_of_isLeast (attempt : Nat → Flow ServerInterface (Except Fault α))
    (isRetriable : Fault → Bool) (complaint : Nat → Nat → Fault → Event) (left number : Nat)
    (delay : UInt64) (server : Surroundings ServerInterface σ) (s : σ) {last : Nat}
    (h : IsLeast {k | Settles isRetriable ((ofLoop server attempt number delay s).outcome k)
      ∨ k = left} last) :
    ((retry attempt isRetriable complaint left number delay).run server s).result
        = (ofLoop server attempt number delay s).outcome last
      ∧ (retry attempt isRetriable complaint left number delay).trace server s
        = (ofLoop server attempt number delay s).exchanges last := by
  obtain ⟨hlast, hmin⟩ := h
  exact retry_follows_series attempt isRetriable complaint left number delay server s
    (fun k hk h => absurd (hmin (.inl h)) (by omega)) hlast (hmin (.inr rfl))

/-- A loop follows its series up to some attempt. -/
theorem exists_exchanges_retry (attempt : Nat → Flow ServerInterface (Except Fault α))
    (isRetriable : Fault → Bool) (complaint : Nat → Nat → Fault → Event) (left number : Nat)
    (delay : UInt64) (server : Surroundings ServerInterface σ) (s : σ) :
    ∃ last, (retry attempt isRetriable complaint left number delay).trace server s
      = (ofLoop server attempt number delay s).exchanges last := by
  obtain ⟨last, hlast⟩ :=
    exists_isLeast_attempt isRetriable (ofLoop server attempt number delay s).outcome left
  exact ⟨last,
    (retry_of_isLeast attempt isRetriable complaint left number delay server s hlast).2⟩

/-! ## Every sequence of outcomes -/

/-- A server that tells how many commands it was sent before. -/
def countingServer : Surroundings ServerInterface Nat
  | .dial .., n => ⟨.ok (), [], n⟩
  | .send _, n => ⟨.ok (.int n), [], n + 1⟩
  | .pause _, n => ⟨(), [], n⟩

/-- Look up the outcome with the number that a counting server answers. -/
def lookUp (o : Nat → Except Fault α) : Flow ServerInterface (Except Fault α) :=
  .ask (.send .ping) fun
    | .ok (.int n) => .done (o n.toNat)
    | .ok _ | .error _ => .done (o 0)

theorem state_lookUp (o : Nat → Except Fault α) (pause : Nat → Nat) (k : Nat) :
    Series.state ⟨countingServer, fun _ => lookUp o, pause, 0⟩ k = k := by
  induction k with
  | zero => rfl
  | succ k ih =>
    rw [Series.state, ih]
    rfl

/-- Every sequence of outcomes comes about: by attempts that look up the next one. -/
theorem outcome_lookUp (o : Nat → Except Fault α) (pause : Nat → Nat) (k : Nat) :
    Series.outcome ⟨countingServer, fun _ => lookUp o, pause, 0⟩ k = o k := by
  rw [Series.outcome, state_lookUp]
  rfl

namespace Client

/-! ## Commands -/

/-- The client that settings describe. -/
def ofSettings (s : Settings.Cache) : Client := ⟨attemptLimit s.maxRetries, s.retryDelayMs⟩

/-- Connecting makes no other client. -/
theorem returns_connect (s : Settings.Cache) :
    (connect s).Returns fun r => ∀ c, r = .ok c → c = ofSettings s := by
  unfold connect
  simp only [Flow.Returns]
  split
  · exact nofun
  · refine returns_bind (returns_of_forall (fun _ => trivial) _) fun r _ => ?_
    cases r with
    | error fault => exact nofun
    | ok a =>
      rintro c hc
      exact (Except.ok.inj hc).symm

/-- **The attempts and pauses of a command.** Whatever the outcomes of attempts are, the number of
those that are made depends on them alone: the last is the first one that succeeds, or whose fault
will not pass, or that is the last one allowed. The command comes to the outcome of that attempt.
There is one pause between any two attempts, as long as configured after the first, then twice as
long each time, but no longer than five seconds. Attempts are counted from zero. -/
theorem execute_follows_outcomes (settings : Settings.Cache)
    (hdelay : settings.retryDelayMs.toNat < 2 ^ 63) (o : Nat → Except Fault α) :
    let c := ofSettings settings
    let limit := max 1 settings.maxRetries.toNat
    let pause := pauseAfter settings.retryDelayMs.toNat
    (connect settings).Returns (fun r => ∀ c', r = .ok c' → c' = c)
      ∧ (∃ attempt, ∀ k, Series.outcome ⟨countingServer, fun _ => attempt, pause, 0⟩ k = o k)
      ∧ ∃ last, IsLeast {k | Settles Fault.isRetriable (o k) ∨ k + 1 = limit} last
        ∧ ∀ {σ : Type} (server : Surroundings ServerInterface σ)
          (attempt : Flow ServerInterface (Except Fault α)) (s : σ),
          let x : Series σ α := ⟨server, fun _ => attempt, pause, s⟩
          (∀ k, x.outcome k = o k) →
            ((c.execute attempt).run server s).result = o last
              ∧ (c.execute attempt).trace server s = x.exchanges last := by
  intro c limit pause
  have hlimit : ∀ k, k + 1 = limit ↔ k = c.maxAttempts - 1 := by
    intro k
    have hpos : 1 ≤ limit := Nat.le_max_left _ _
    have hmax : c.maxAttempts = limit := rfl
    omega
  refine ⟨returns_connect settings, ⟨lookUp o, outcome_lookUp o pause⟩, ?_⟩
  obtain ⟨last, hlast, hmin⟩ := exists_isLeast_attempt Fault.isRetriable o (c.maxAttempts - 1)
  refine ⟨last, by simpa only [hlimit] using ⟨hlast, hmin⟩, ?_⟩
  intro σ server attempt s x houtcome
  have hx : ofLoop server (fun _ => attempt) 1 c.delay s = x := by
    simp only [ofLoop, x, pause, Series.mk.injEq, true_and, and_true]
    exact funext (toNat_delayAfter hdelay)
  have hbefore : ∀ k < last, ¬Settles Fault.isRetriable (x.outcome k) := by
    intro k hk h
    rw [houtcome] at h
    exact absurd (hmin (.inl h)) (by omega)
  have hend : Settles Fault.isRetriable (x.outcome last) ∨ last = c.maxAttempts - 1 := by
    rw [houtcome]
    exact hlast
  rw [← hx] at hbefore hend
  have hloop := retry_follows_series _ _ (fun n d f => .commandRetry n c.maxAttempts d f) _ 1
    c.delay server s hbefore hend (hmin (.inr rfl))
  rwa [hx, houtcome] at hloop

/-- Three attempts are allowed, and every one meets a fault that may pass: there are three, and two
pauses. -/
theorem execute_follows_outcomes_of_three :
    let settings : Settings.Cache := { maxRetries := 3, retryDelayMs := 4000 }
    let fault : Fault := .io "timed out"
    let server : Surroundings ServerInterface Unit
      | .dial .., _ => ⟨.ok (), [], ()⟩
      | .send _, _ => ⟨.error fault, [], ()⟩
      | .pause _, _ => ⟨(), [], ()⟩
    let flow := (ofSettings settings).execute (ask .ping asText)
    let failed : Exchange ServerInterface := ⟨.send .ping, .error fault⟩
    settings.retryDelayMs.toNat < 2 ^ 63
      ∧ (flow.run server ()).result = .error fault
      ∧ flow.trace server () = [failed, ⟨.pause 4000, ()⟩, failed, ⟨.pause 5000, ()⟩, failed] := by
  intro settings fault server flow failed
  have hdelay : settings.retryDelayMs.toNat < 2 ^ 63 := by decide
  obtain ⟨-, -, last, ⟨hlast, -⟩, hrun⟩ :=
    execute_follows_outcomes settings hdelay fun _ => (.error fault : Except Fault String)
  have htwo : last = 2 := by
    rcases hlast with hsettles | hlimit
    · exact absurd hsettles (by simp [Settles, fault, Fault.isRetriable, Fault.kind,
        FaultKind.isRetriable])
    · have hthree : max 1 settings.maxRetries.toNat = 3 := rfl
      omega
  subst htwo
  obtain ⟨hresult, htrace⟩ := hrun server (ask .ping asText) () fun _ => rfl
  exact ⟨hdelay, hresult, htrace⟩

end Client

end Passcode.Redis
