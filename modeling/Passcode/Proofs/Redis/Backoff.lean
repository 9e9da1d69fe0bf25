import Passcode.Proofs.Redis.Series

/-!
# How long a client pauses

A doubled pause is cut to five seconds. The first pause is not a doubled one: it is as long as it is
configured, and nothing cuts it. So the pauses of a client keep to five seconds only if the
configured one does, or if there is none.

## Main definitions

* `pauses` — the pauses among some exchanges
* `CutAfterFirst` — the first pause is as configured, the others keep to five seconds

## Main statements

* `cutAfterFirst_retry` — the pauses of a loop over attempts
* `Client.only_first_pause_is_uncut` — the pauses of connecting and of commands
* `Client.first_pause_beyond_longest` — a configured pause of nine seconds is made
-/

namespace Passcode.Redis

open Passcode.Flow

variable {α σ : Type}

/-! ## Pauses among exchanges -/

/-- The milliseconds of a pause. -/
def Question.millis? : Question → Option Nat
  | .pause millis => some millis
  | .dial .. | .send _ => none

/-- The pauses among some exchanges. -/
def pauses (asked : List (Exchange ServerInterface)) : List Nat :=
  asked.filterMap fun x => Question.millis? x.question

/-- A flow makes no pause of its own. -/
def NeverPauses (m : Flow ServerInterface α) : Prop :=
  m.AsksOnly fun q => Question.millis? q = none

theorem NeverPauses.pauses_trace {m : Flow ServerInterface α} (h : NeverPauses m)
    (server : Surroundings ServerInterface σ) (s : σ) : pauses (m.trace server s) = [] :=
  List.filterMap_eq_nil_iff.2 ((run_leads server m s).asksOnly h)

theorem pauses_exchanges {x : Series σ α} (h : ∀ k, pauses (x.asked k) = []) (last : Nat) :
    pauses (x.exchanges last) = (List.range last).map x.pause := by
  induction last with
  | zero => exact h 0
  | succ last ih =>
    have hlast := h (last + 1)
    rw [pauses] at ih hlast
    rw [pauses, Series.exchanges, List.filterMap_append, List.filterMap_cons, ih, hlast,
      List.range_succ, List.map_append]
    rfl

/-- The first pause is as configured, and the others keep to the longest that is meant. -/
structure CutAfterFirst (delay : UInt64) (ps : List Nat) : Prop where
  first : ∀ millis ∈ ps.head?, millis = delay.toNat
  rest : ∀ millis ∈ ps.tail, millis ≤ maxDelay.toNat

theorem cutAfterFirst_nil (delay : UInt64) : CutAfterFirst delay [] where
  first := by simp
  rest := by simp

/-- All pauses keep to the longest that is meant if there are none, or if that is configured. -/
theorem CutAfterFirst.forall_le_iff {delay : UInt64} {ps : List Nat} (h : CutAfterFirst delay ps) :
    (∀ millis ∈ ps, millis ≤ maxDelay.toNat) ↔ ps = [] ∨ delay ≤ maxDelay := by
  obtain ⟨hfirst, hrest⟩ := h
  cases ps with
  | nil => simp
  | cons millis ps =>
    obtain rfl : millis = delay.toNat := hfirst millis rfl
    simp only [List.forall_mem_cons, reduceCtorEq, false_or, UInt64.le_iff_toNat_le]
    exact and_iff_left hrest

/-- **The pauses of a loop over attempts**, which make none themselves. -/
theorem cutAfterFirst_retry {attempt : Nat → Flow ServerInterface (Except Fault α)}
    (h : ∀ number, NeverPauses (attempt number)) (isRetriable : Fault → Bool)
    (complaint : Nat → Nat → Fault → Event) (left number : Nat) (delay : UInt64)
    (server : Surroundings ServerInterface σ) (s : σ) :
    CutAfterFirst delay
      (pauses ((retry attempt isRetriable complaint left number delay).trace server s)) := by
  obtain ⟨last, htrace⟩ :=
    exists_exchanges_retry attempt isRetriable complaint left number delay server s
  have hasked : ∀ k, pauses ((Series.ofLoop server attempt number delay s).asked k) = [] :=
    fun k => (h _).pauses_trace server _
  rw [htrace, pauses_exchanges hasked]
  cases last with
  | zero => exact cutAfterFirst_nil _
  | succ last =>
    rw [List.range_succ_eq_map, List.map_cons, List.map_map]
    constructor
    · rintro millis ⟨⟩
      rfl
    · intro millis hmillis
      obtain ⟨k, -, rfl⟩ := List.mem_map.1 hmillis
      exact delayAfter_succ_le delay k

namespace Client

/-! ## The pauses of a client -/

theorem cutAfterFirst_connect (settings : Settings.Cache)
    (server : Surroundings ServerInterface σ) (s : σ) :
    CutAfterFirst settings.retryDelayMs (pauses ((connect settings).trace server s)) := by
  cases hurl : Endpoint.ofUrl settings.url with
  | error fault =>
    simp only [connect, hurl, Flow.trace]
    exact cutAfterFirst_nil _
  | ok endpoint =>
    simp only [connect, hurl, Flow.trace]
    rw [trace_bind_of_silent fun r => by cases r <;> trivial]
    refine cutAfterFirst_retry (fun number => ?_) _ _ _ _ _ server s
    exact ⟨rfl, fun _ => trivial⟩

/-- **The pauses of a client** are cut after the first, both while it connects and while it executes
a command, whatever the server does. So they all keep to the longest that is meant only if the
configured one does, or if no attempt is followed by another. -/
theorem only_first_pause_is_uncut (settings : Settings.Cache)
    (server : Surroundings ServerInterface σ) (s : σ) :
    let connecting := pauses ((connect settings).trace server s)
    CutAfterFirst settings.retryDelayMs connecting
      ∧ ((∀ millis ∈ connecting, millis ≤ maxDelay.toNat)
        ↔ connecting = [] ∨ settings.retryDelayMs ≤ maxDelay)
      ∧ ∀ attempt : Flow ServerInterface (Except Fault α), NeverPauses attempt →
        let executing := pauses (((ofSettings settings).execute attempt).trace server s)
        CutAfterFirst settings.retryDelayMs executing
          ∧ ((∀ millis ∈ executing, millis ≤ maxDelay.toNat)
            ↔ executing = [] ∨ settings.retryDelayMs ≤ maxDelay) := by
  intro connecting
  have hconnecting := cutAfterFirst_connect settings server s
  refine ⟨hconnecting, hconnecting.forall_le_iff, fun attempt hattempt => ?_⟩
  intro executing
  have hexecuting : CutAfterFirst settings.retryDelayMs executing :=
    cutAfterFirst_retry (fun _ => hattempt) _ _ _ _ _ server s
  exact ⟨hexecuting, hexecuting.forall_le_iff⟩

/-- A server that takes no connection and is always loading. -/
def loadingServer : Surroundings ServerInterface Unit
  | .dial .., _ => ⟨.error (.io "refused"), [], ()⟩
  | .send _, _ => ⟨.error (.signalled "LOADING" none), [], ()⟩
  | .pause _, _ => ⟨(), [], ()⟩

/-- Three attempts with nine seconds configured: only the second pause is cut. -/
theorem only_first_pause_is_uncut_of_three :
    let settings : Settings.Cache := { maxRetries := 3, retryDelayMs := 9000 }
    let attempt := ask (.get "k") asOptionalText
    let executing := pauses (((ofSettings settings).execute attempt).trace loadingServer ())
    NeverPauses attempt ∧ executing = [9000, 5000]
      ∧ CutAfterFirst settings.retryDelayMs executing
      ∧ ¬∀ millis ∈ executing, millis ≤ maxDelay.toNat := by
  intro settings attempt executing
  have hattempt : NeverPauses attempt := ⟨rfl, fun _ => trivial⟩
  obtain ⟨hcut, hiff⟩ :=
    (only_first_pause_is_uncut settings loadingServer ()).2.2 attempt hattempt
  have hexecuting : executing = [9000, 5000] := by decide +kernel
  have hlong : ¬settings.retryDelayMs ≤ maxDelay := by decide
  have hsome : executing ≠ [] := by
    rw [hexecuting]
    exact List.cons_ne_nil _ _
  exact ⟨hattempt, hexecuting, hcut, fun h => (hiff.1 h).elim hsome hlong⟩

/-- A configured pause of nine seconds is made, both while connecting and while executing a
command, although five seconds are the longest that is meant. -/
theorem first_pause_beyond_longest :
    let settings : Settings.Cache :=
      { url := "redis://h", maxRetries := 2, retryDelayMs := 9000 }
    let connecting := pauses ((connect settings).trace loadingServer ())
    let executing := pauses
      (((ofSettings settings).execute (ask (.get "k") asOptionalText)).trace loadingServer ())
    connecting = [9000] ∧ executing = [9000]
      ∧ ¬(∀ millis ∈ connecting, millis ≤ maxDelay.toNat)
      ∧ ¬∀ millis ∈ executing, millis ≤ maxDelay.toNat := by
  intro settings connecting executing
  have hconnecting : connecting = [9000] := by decide +kernel
  have hexecuting : executing = [9000] := rfl
  rw [hconnecting, hexecuting]
  exact ⟨rfl, rfl, by decide, by decide⟩

end Client

end Passcode.Redis
