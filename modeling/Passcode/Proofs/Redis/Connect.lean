import Mathlib.Order.Bounds.Basic
import Passcode.Proofs.Redis.Series

/-!
# How often a client tries to connect

A command is tried again only after a fault that may pass. Connecting is tried again after every
fault, also after one that will not pass, until it succeeds or no attempt is left. So it keeps to
the policy of commands exactly if it meets no fault that will not pass before its last attempt.

## Main definitions

* `Client.dials` — the series of attempts to connect

## Main statements

* `Client.outcome_dials` — every sequence of outcomes comes about
* `Client.run_connect` — connecting follows the attempts up to the first that succeeds
* `Client.connecting_retries_every_fault` — the attempts to connect, from their outcomes
* `Client.wrong_password_is_sent_again` — a fault that will not pass does not end the attempts
-/

namespace Passcode.Redis

open Passcode.Flow Series

variable {α σ : Type}

/-- What a connection string names can be decided. -/
theorem Endpoint.ofUrl_eq_ok {url : String} {endpoint : Endpoint}
    (h : (Endpoint.ofUrl url).toOption = some endpoint) : Endpoint.ofUrl url = .ok endpoint := by
  cases hurl : Endpoint.ofUrl url with
  | error fault =>
    rw [hurl] at h
    cases h
  | ok e =>
    rw [hurl] at h
    exact congrArg Except.ok (Option.some.inj h)

/-- If every fault may pass, an outcome settles the matter only as a success. -/
theorem settles_of_all_retriable_iff {r : Except Fault α} :
    Settles (fun _ => true) r ↔ ∃ a, r = .ok a := by
  cases r with
  | ok a => exact ⟨fun _ => ⟨a, rfl⟩, fun _ => trivial⟩
  | error fault => simp [Settles]

/-! ## The last attempt -/

section Last

variable {o : Nat → Except Fault α} {left last : Nat}
  (hlast : IsLeast {k | (∃ a, o k = .ok a) ∨ k = left} last)

include hlast

/-- A fault is followed by a further attempt exactly if one is left. -/
theorem lt_last_iff {k : Nat} (hk : k ≤ last) {fault : Fault} (hfault : o k = .error fault) :
    k < last ↔ k < left := by
  obtain ⟨hend, hmin⟩ := hlast
  have hle : last ≤ left := hmin (.inr rfl)
  refine ⟨fun hlt => Nat.lt_of_lt_of_le hlt hle, fun hleft => Nat.lt_of_le_of_ne hk ?_⟩
  rintro rfl
  rcases hend with ⟨a, ha⟩ | rfl
  · rw [hfault] at ha
    cases ha
  · exact Nat.lt_irrefl _ hleft

/-- The policy that tries again only after faults that may pass makes as many attempts exactly if
every fault before the last attempt may pass. -/
theorem eq_last_iff {isRetriable : Fault → Bool} {meant : Nat}
    (hmeant : IsLeast {k | Settles isRetriable (o k) ∨ k = left} meant) :
    meant = last ↔ ∀ k < last, ∀ fault, o k = .error fault → isRetriable fault = true := by
  obtain ⟨hend, hmin⟩ := hlast
  obtain ⟨hend', hmin'⟩ := hmeant
  constructor
  · rintro rfl k hk fault hfault
    by_contra hpermanent
    have hsettles : Settles isRetriable (o k) := by
      rw [hfault]
      exact eq_false_of_ne_true hpermanent
    exact Nat.not_le_of_lt hk (hmin' (.inl hsettles))
  · intro hpass
    have hle : meant ≤ last := by
      refine hmin' (hend.imp_left ?_)
      rintro ⟨a, ha⟩
      rw [ha]
      trivial
    rcases hend' with hsettles | hleft
    · cases hmade : o meant with
      | ok a => exact Nat.le_antisymm hle (hmin (.inl ⟨a, hmade⟩))
      | error fault =>
        -- a fault that will not pass is met at the last attempt or not at all
        by_contra hne
        rw [hmade, Settles, hpass meant (Nat.lt_of_le_of_ne hle hne) fault hmade] at hsettles
        cases hsettles
    · exact Nat.le_antisymm hle (hmin (.inr hleft))

end Last

namespace Client

/-! ## The attempts -/

/-- One attempt to connect. -/
def dial (endpoint : Endpoint) (timeout number : Nat) : Flow ServerInterface (Except Fault Unit) :=
  .log (.connecting number) <| .ask (.dial endpoint timeout) .done

/-- The attempts to connect, each followed by a pause. -/
def dials (settings : Settings.Cache) (endpoint : Endpoint)
    (server : Surroundings ServerInterface σ) (s : σ) : Series σ Unit :=
  ofLoop server (dial endpoint (max 1 settings.connectionTimeout.toNat)) 1 settings.retryDelayMs s

/-- A server that takes connections as it is told. -/
def scriptedServer (o : Nat → Except Fault Unit) : Surroundings ServerInterface Nat
  | .dial .., n => ⟨o n, [], n + 1⟩
  | .send _, n => ⟨.error (.io "closed"), [], n⟩
  | .pause _, n => ⟨(), [], n⟩

/-- Every sequence of outcomes comes about. -/
theorem outcome_dials (settings : Settings.Cache) (endpoint : Endpoint)
    (o : Nat → Except Fault Unit) (k : Nat) :
    (dials settings endpoint (scriptedServer o) 0).outcome k = o k := by
  have hstate : ∀ k, (dials settings endpoint (scriptedServer o) 0).state k = k := by
    intro k
    induction k with
    | zero => rfl
    | succ k ih =>
      rw [Series.state, ih]
      rfl
  rw [Series.outcome, hstate]
  rfl

/-! ## Connecting -/

/-- What becomes of the outcome of the last attempt. -/
def conclude (settings : Settings.Cache) :
    Except Fault Unit → Flow ServerInterface (Except Fault Client)
  | .error fault =>
    .log (.connectGivenUp (attemptLimit settings.maxRetries) fault) <| .done (.error fault)
  | .ok () => .log .connected <| .log .clientReady <| .done (.ok (ofSettings settings))

section

variable {settings : Settings.Cache} {endpoint : Endpoint}
  (hurl : Endpoint.ofUrl settings.url = .ok endpoint)

include hurl

theorem connect_eq_log_bind :
    let limit := attemptLimit settings.maxRetries
    connect settings = .log (.clientStarting (Mask.url settings.url) settings.maxRetries.toNat)
      ((retry (dial endpoint (max 1 settings.connectionTimeout.toNat)) (fun _ => true)
        (fun n d f => .connectRetry n limit d f) (limit - 1) 1 settings.retryDelayMs).bind
          (conclude settings)) := by
  intro limit
  rw [connect, hurl]
  refine congrArg (Flow.log _) (congrArg (Flow.bind _) (funext fun r => ?_))
  cases r <;> rfl

/-- Connecting follows the attempts up to the first that succeeds, or up to the last one allowed. -/
theorem run_connect (server : Surroundings ServerInterface σ) (s : σ) {last : Nat}
    (hlast : IsLeast {k | (∃ a, (dials settings endpoint server s).outcome k = .ok a)
      ∨ k = attemptLimit settings.maxRetries - 1} last) :
    ((connect settings).run server s).result
        = ((dials settings endpoint server s).outcome last).map (fun _ => ofSettings settings)
      ∧ (connect settings).trace server s = (dials settings endpoint server s).exchanges last := by
  simp only [← settles_of_all_retriable_iff] at hlast
  obtain ⟨hresult, htrace⟩ := retry_of_isLeast _ _
    (fun n d f => .connectRetry n (attemptLimit settings.maxRetries) d f) _ 1 _ server s hlast
  rw [connect_eq_log_bind hurl, Flow.run, Flow.trace]
  constructor
  · rw [run_bind, hresult, dials]
    cases (ofLoop server _ 1 settings.retryDelayMs s).outcome last <;> rfl
  · rw [trace_bind_of_silent fun r => by cases r <;> trivial, htrace, dials]

end

/-- **Connecting is tried again after every fault.** Whatever the outcomes of attempts are, the last
attempt is the first that succeeds, or the last one allowed; and connecting comes to the outcome of
that attempt. So a fault is followed by a further attempt exactly if one is left, also if it will
not pass. The attempts are as many as the policy of commands allows exactly if every fault before
the last attempt may pass. -/
theorem connecting_retries_every_fault (settings : Settings.Cache) {endpoint : Endpoint}
    (hurl : Endpoint.ofUrl settings.url = .ok endpoint) (o : Nat → Except Fault Unit) :
    let limit := max 1 settings.maxRetries.toNat
    (∃ server : Surroundings ServerInterface Nat,
        ∀ k, (dials settings endpoint server 0).outcome k = o k)
      ∧ ∃ last, IsLeast {k | (∃ a, o k = .ok a) ∨ k + 1 = limit} last
        ∧ (∀ {σ : Type} (server : Surroundings ServerInterface σ) (s : σ),
          (∀ k, (dials settings endpoint server s).outcome k = o k) →
            ((connect settings).run server s).result = (o last).map (fun _ => ofSettings settings)
              ∧ (connect settings).trace server s
                = (dials settings endpoint server s).exchanges last)
        ∧ (∀ k ≤ last, ∀ fault, o k = .error fault → (k < last ↔ k + 1 < limit))
        ∧ ∀ meant, IsLeast {k | Settles Fault.isRetriable (o k) ∨ k + 1 = limit} meant →
          (meant = last ↔ ∀ k < last, ∀ fault, o k = .error fault → fault.isRetriable = true) := by
  intro limit
  have hlimit : ∀ k, k + 1 = limit ↔ k = attemptLimit settings.maxRetries - 1 := by
    intro k
    have hpos : 1 ≤ limit := Nat.le_max_left _ _
    have hmax : attemptLimit settings.maxRetries = limit := rfl
    omega
  refine ⟨⟨scriptedServer o, outcome_dials settings endpoint o⟩, ?_⟩
  obtain ⟨last, hlast⟩ :=
    exists_isLeast_attempt (fun _ => true) o (attemptLimit settings.maxRetries - 1)
  simp only [settles_of_all_retriable_iff] at hlast
  simp only [hlimit]
  refine ⟨last, hlast, fun server s houtcome => ?_, fun k hk fault hfault => ?_,
    fun meant hmeant => eq_last_iff hlast hmeant⟩
  · simp only [← houtcome] at hlast
    rw [← houtcome]
    exact run_connect hurl server s hlast
  · have hleft : k + 1 < limit ↔ k < attemptLimit settings.maxRetries - 1 := by
      have hmax : attemptLimit settings.maxRetries = limit := rfl
      omega
    rw [hleft]
    exact lt_last_iff hlast hk hfault

/-- At the first attempt the server does not take the password and at the second not the database,
which will not pass; the third meets a fault that may, and the fourth succeeds. The client is
connected then, although the policy of commands allows the first attempt only. -/
theorem connected_after_refusal :
    let settings : Settings.Cache := { url := "redis://u:p@h/3", maxRetries := 5 }
    let endpoint : Endpoint := ⟨.tcp "h" 6379, some "u", some "p", 3⟩
    let o : Nat → Except Fault Unit
      | 0 => .error .passwordRefused
      | 1 => .error .databaseRefused
      | 2 => .error (.io "timed out")
      | _ => .ok ()
    Endpoint.ofUrl settings.url = .ok endpoint ∧ Fault.passwordRefused.isRetriable = false
      ∧ Fault.databaseRefused.isRetriable = false
      ∧ IsLeast {k | Settles Fault.isRetriable (o k) ∨ k + 1 = 5} 0
      ∧ ((connect settings).run (scriptedServer o) 0).result = .ok (ofSettings settings) := by
  intro settings endpoint o
  have hurl : Endpoint.ofUrl settings.url = .ok endpoint :=
    Endpoint.ofUrl_eq_ok (by decide +kernel)
  have hrefused : Fault.passwordRefused.isRetriable = false := by decide
  obtain ⟨-, last, hlast, hrun, -, -⟩ := connecting_retries_every_fault settings hurl o
  have hthree : IsLeast {k | (∃ a, o k = .ok a) ∨ k + 1 = 5} 3 := by
    refine ⟨.inl ⟨(), rfl⟩, fun k hk => ?_⟩
    match k, hk with
    | 0, .inl ⟨_, ha⟩ => cases ha
    | 1, .inl ⟨_, ha⟩ => cases ha
    | 2, .inl ⟨_, ha⟩ => cases ha
    | k + 3, _ => omega
  obtain rfl := hlast.unique hthree
  obtain ⟨hresult, -⟩ := hrun (scriptedServer o) 0 (outcome_dials settings endpoint o)
  exact ⟨hurl, hrefused, by decide, ⟨.inl hrefused, fun _ _ => Nat.zero_le _⟩, hresult⟩

/-- A server that refuses everyone who introduces themselves. -/
def refusingServer : Surroundings ServerInterface Unit
  | .dial .., _ => ⟨.error .passwordRefused, [], ()⟩
  | .send _, _ => ⟨.error (.io "closed"), [], ()⟩
  | .pause _, _ => ⟨(), [], ()⟩

/-- A password that the server refuses is sent again, although the refusal will not pass. -/
theorem wrong_password_is_sent_again :
    let settings : Settings.Cache := { url := "redis://u:wrong@h", maxRetries := 2 }
    let endpoint : Endpoint := ⟨.tcp "h" 6379, some "u", some "wrong", 0⟩
    let refused : Fault := .passwordRefused
    let attempt : Exchange ServerInterface := ⟨.dial endpoint 5, .error refused⟩
    Endpoint.ofUrl settings.url = .ok endpoint ∧ refused.isRetriable = false
      ∧ (connect settings).trace refusingServer () = [attempt, ⟨.pause 100, ()⟩, attempt] := by
  intro settings endpoint refused attempt
  have hurl : Endpoint.ofUrl settings.url = .ok endpoint :=
    Endpoint.ofUrl_eq_ok (by decide +kernel)
  refine ⟨hurl, by decide, ?_⟩
  rw [connect_eq_log_bind hurl]
  rfl

end Client

end Passcode.Redis
