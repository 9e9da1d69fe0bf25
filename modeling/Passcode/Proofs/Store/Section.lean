import Passcode.Proofs.Flow.Pool
import Passcode.Proofs.Store.Request

/-!
# The steps of a request to a vault

A vault serves requests at the same time. The records are behind a lock, and a request goes through
several steps: it looks at the flag of outages and at the clock, and then does one thing, or two,
while it holds the lock. Between these steps others may hold the lock, and time may pass, so what a
request does while it holds the lock goes by a time that may be over by then.

Reading a record that has expired is the one request that takes the lock twice: once to find that
out and once more to drop the record.

## Main definitions

* `Access`, `Vault.access` — one step, and what it does
* `VaultRequest.steps` — the steps of a request
* `Vault.arena` — requests in progress at the same time

## Main statements

* `VaultRequest.run_steps` — undisturbed, the steps of a request come to the request
-/

namespace Passcode

/-- A step of a request to a vault: a look at the flag of outages or at the clock, or what is done
to the records while their lock is held. -/
inductive Access where
  | outage
  | clock
  /-- Keep a record in place of what is under its key. -/
  | keep (key : String) (r : Record)
  /-- Look up the record under a key, expired or not. -/
  | look (key : String)
  | count
  /-- Drop the record under a key if it has expired at the time `now`. -/
  | drop (key : String) (now : Nat)
  /-- Remove the record under a key, expired or not. -/
  | remove (key : String)
  /-- Remove the record under a key if at the time `now` it is live and holds what is expected, and
  drop it if it has expired. -/
  | use (key expected : String) (now : Nat)
  /-- Drop all records that have expired at the time `now`. -/
  | retain (now : Nat)
deriving Repr, DecidableEq

/-- What is learnt from a step. -/
def Access.Answer : Access → Type
  | .outage | .use .. => Bool
  | .clock | .count | .retain _ => Nat
  | .keep .. | .drop .. => Unit
  | .look _ | .remove _ => Option Record

/-- The steps as questions. -/
abbrev AccessInterface : Interface := ⟨Access, Access.Answer⟩

/-- Whether a live record with an expected value is under a key. -/
def Vault.holds (v : Vault) (key expected : String) (now : Nat) : Bool :=
  (v.live? key now).any (·.value == expected)

/-- A vault after the record under a key was to be used up. -/
def Vault.use (v : Vault) (key expected : String) (now : Nat) : Vault :=
  if v.holds key expected now then v.erase key else v.dropExpired key now

/-- One step at a vault under its clock. -/
def Vault.access : Flow.Surroundings AccessInterface (Clocked Vault)
  | .outage, s => ⟨s.store.outage, [], s⟩
  | .clock, s => ⟨s.clock, [], s⟩
  | .keep key r, s => ⟨(), [], { s with store := s.store.insert key r }⟩
  | .look key, s => ⟨s.store.find? key, [], s⟩
  | .count, s => ⟨s.store.size, [], s⟩
  | .drop key now, s => ⟨(), [], { s with store := s.store.dropExpired key now }⟩
  | .remove key, s => ⟨s.store.find? key, [], { s with store := s.store.erase key }⟩
  | .use key expected now, s =>
    ⟨s.store.holds key expected now, [], { s with store := s.store.use key expected now }⟩
  | .retain now, s => ⟨s.store.purgeCount now, [], { s with store := s.store.purge now }⟩

/-! ## Requests step by step -/

/-- What is done if there is no outage, and else. -/
def unlessOutage {α : Type} (refused m : Flow AccessInterface α) : Flow AccessInterface α :=
  .ask .outage fun
    | true => refused
    | false => m

/-- The steps of a call of a store. -/
def StoreCall.steps : (c : StoreCall) → Flow AccessInterface c.Answer
  | .set key value lifetime =>
    unlessOutage (.log .memoryOutage <| .done false) <|
      if lifetime ≤ 0 then .ask (.keep key ⟨value, none⟩) fun () => .done true
      else
        .ask .clock fun now =>
          match Vault.deadline? now lifetime with
          | none => .log (.lifetimeOutOfRange lifetime) <| .done false
          | some deadline => .ask (.keep key ⟨value, deadline⟩) fun () => .done true
  | .get key =>
    unlessOutage (.done none) <|
      .ask .clock fun now =>
        .ask (.look key) fun
          | none => .done none
          | some r =>
            if r.isLive now then .done (some r.value)
            else .ask (.drop key now) fun () => .done none
  | .contains key =>
    unlessOutage (.done false) <|
      .ask .clock fun now => .ask (.look key) fun r? => .done (r?.any (·.isLive now))
  | .delete key =>
    unlessOutage (.done false) <|
      .ask .clock fun now => .ask (.remove key) fun r? => .done (r?.any (·.isLive now))
  | .consume key expected =>
    unlessOutage (.done false) <|
      .ask .clock fun now => .ask (.use key expected now) fun used => .done used

/-- The steps of a request. -/
def VaultRequest.steps : (r : VaultRequest) → Flow AccessInterface r.Answer
  | .call c => c.steps
  | .remaining key =>
    .ask .clock fun (now : Nat) =>
      .ask (.look key) fun r? =>
        .done ((r?.filter (·.isLive now)).bind fun r => r.deadline.map (· - now))
  | .size => .ask .count fun n => .done n
  | .purge => .ask .clock fun now => .ask (.retain now) fun n => .done n

theorem run_unlessOutage {α : Type} (refused m : Flow AccessInterface α) (s : Clocked Vault) :
    (unlessOutage refused m).run Vault.access s
      = if s.store.outage then refused.run Vault.access s else m.run Vault.access s := by
  cases h : s.store.outage <;> simp only [unlessOutage, Flow.run, Vault.access, h] <;> rfl

/-- Reading a record, if nothing is out of reach, by what is under the key. -/
theorem Vault.get_eq {v : Vault} (h : v.outage = false) (now : Nat) (key : String) :
    v.get now key
      = match v.find? key with
        | none => ⟨none, [], v⟩
        | some r =>
          if r.isLive now then ⟨some r.value, [], v⟩ else ⟨none, [], v.dropExpired key now⟩ := by
  simp only [get, h, live?, dropExpired]
  cases v.find? key with
  | none => rfl
  | some r => cases hlive : r.isLive now <;> simp [Option.filter_some, hlive]

/-- Using up a record, if nothing is out of reach. -/
theorem Vault.consume_eq {v : Vault} (h : v.outage = false) (now : Nat) (key expected : String) :
    v.consume now key expected
      = ⟨v.holds key expected now, [], v.use key expected now⟩ := by
  simp only [consume, h, use, holds, live?, dropExpired]
  obtain hr | ⟨r, hr⟩ : v.find? key = none ∨ ∃ r, v.find? key = some r := by
    cases v.find? key <;> simp
  · simp [hr]
  · cases hlive : r.isLive now with
    | false => simp [hr, hlive]
    | true => by_cases hvalue : r.value = expected <;> simp [hr, hlive, hvalue]

/-- Undisturbed, the steps of a call come to the call. -/
theorem StoreCall.run_steps (c : StoreCall) (s : Clocked Vault) :
    c.steps.run Vault.access s = Vault.act (.request (.call c)) s := by
  cases c with
  | set key value lifetime =>
    rw [steps, run_unlessOutage, Vault.act, Vault.serve, Vault.perform, Vault.set]
    split
    · rfl
    · split
      · next hle =>
        simp only [Flow.run, Vault.access, Vault.deadline?, if_pos hle]
        rfl
      · simp only [Flow.run, Vault.access]
        cases Vault.deadline? s.clock lifetime <;> rfl
  | get key =>
    rw [steps, run_unlessOutage, Vault.act, Vault.serve, Vault.perform]
    cases houtage : s.store.outage with
    | true =>
      simp only [Vault.get, houtage]
      rfl
    | false =>
      simp only [Vault.get_eq houtage, Flow.run, Vault.access]
      cases s.store.find? key with
      | none => rfl
      | some r => cases hlive : r.isLive s.clock <;> simp only [hlive] <;> rfl
  | contains key =>
    rw [steps, run_unlessOutage, Vault.act, Vault.serve, Vault.perform, Vault.contains]
    split
    · rfl
    · simp only [Flow.run, Vault.access, Vault.live?, Option.isSome_filter]
      rfl
  | delete key =>
    rw [steps, run_unlessOutage, Vault.act, Vault.serve, Vault.perform, Vault.delete]
    split
    · rfl
    · simp only [Flow.run, Vault.access, Vault.live?, Option.isSome_filter]
      rfl
  | consume key expected =>
    rw [steps, run_unlessOutage, Vault.act, Vault.serve, Vault.perform]
    cases houtage : s.store.outage with
    | true =>
      simp only [Vault.consume, houtage]
      rfl
    | false =>
      rw [Vault.consume_eq houtage]
      rfl

/-- **Undisturbed, the steps of a request come to the request.** -/
theorem VaultRequest.run_steps (r : VaultRequest) (s : Clocked Vault) :
    r.steps.run Vault.access s = Vault.act (.request r) s := by
  cases r with
  | call c => exact c.run_steps s
  | remaining key => rfl
  | size => rfl
  | purge => rfl

/-! ## Requests at the same time -/

/-- Requests to a vault in progress at the same time, while time passes and outages come and go. -/
def Vault.arena : Arena AccessInterface VaultRequest ((r : VaultRequest) × r.Answer)
    (Clocked Vault) Unit VaultChange where
  flow r := r.steps.map (Sigma.mk r)
  answer _ := Vault.access
  change e s := s.after e

end Passcode
