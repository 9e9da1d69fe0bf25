import Passcode.Proofs.Store.Ideal

/-!
# Requests to a vault

All that a vault can be asked, and what can happen to it in between. Besides the calls of a store a
vault tells how long a record still lives and how many records it holds, and can be purged on
demand.

## Main definitions

* `VaultRequest`, `Vault.serve` — a request, and its answer at a time
* `VaultChange`, `Clocked.after` — time passes, or an outage begins or ends
* `VaultStep`, `Vault.act` — either of them, as a step of a run

## Main statements

* `Vault.find?_of_serve` — what is found after a request was there before or is live
-/

namespace Passcode

/-- A request to a vault. -/
inductive VaultRequest where
  | call (c : StoreCall)
  /-- The milliseconds that a live record with a deadline still has. -/
  | remaining (key : String)
  /-- The number of records held. -/
  | size
  /-- Drop what has expired, and tell how much that was. -/
  | purge
deriving Repr, DecidableEq

/-- What a vault answers to a request. -/
def VaultRequest.Answer : VaultRequest → Type
  | .call c => c.Answer
  | .remaining _ => Option Nat
  | .size | .purge => Nat

/-- Serve a request at a time. -/
def Vault.serve (now : Nat) (r : VaultRequest) (v : Vault) : Flow.Run Vault r.Answer :=
  match r with
  | .call c => v.perform now c
  | .remaining key => ⟨v.remaining? now key, [], v⟩
  | .size => ⟨v.size, [], v⟩
  | .purge => ⟨v.purgeCount now, [], v.purge now⟩

/-- What happens to a vault without being asked for. -/
inductive VaultChange where
  | advance (millis : Nat)
  /-- An outage begins or ends. -/
  | outage (on : Bool)
deriving Repr, DecidableEq

/-- A vault and its clock after a change. -/
def Clocked.after (s : Clocked Vault) : VaultChange → Clocked Vault
  | .advance millis => { s with clock := s.clock + millis }
  | .outage on => { s with store := { s.store with outage := on } }

/-- A step of a run of a vault. -/
inductive VaultStep where
  | request (r : VaultRequest)
  | change (e : VaultChange)
deriving Repr, DecidableEq

/-- What is learnt from a step: nothing from a change. -/
def VaultStep.Answer : VaultStep → Type
  | .request r => r.Answer
  | .change _ => Unit

/-- The steps of a vault as questions. -/
abbrev VaultInterface : Interface := ⟨VaultStep, VaultStep.Answer⟩

/-- A step of a vault under its clock. -/
def Vault.act : Flow.Surroundings VaultInterface (Clocked Vault)
  | .request r, s =>
    let a := s.store.serve s.clock r
    ⟨a.result, a.events, { s with store := a.state }⟩
  | .change e, s => ⟨(), [], s.after e⟩

/-- No request starts or ends an outage. -/
@[simp] theorem Vault.serve_outage (v : Vault) (now : Nat) (r : VaultRequest) :
    (v.serve now r).state.outage = v.outage := by
  cases r with
  | call c => exact perform_outage v now c
  | remaining key => rfl
  | size => rfl
  | purge => rfl

/-- What is found after a request was there before, or was written by it and is live. -/
theorem Vault.find?_of_serve {v : Vault} {now : Nat} {request : VaultRequest} {key : String}
    {r : Record} (h : (v.serve now request).state.find? key = some r) :
    v.find? key = some r ∨ r.isLive now = true := by
  cases request with
  | remaining k => exact .inl h
  | size => exact .inl h
  | purge => exact .inl (find?_of_purge h)
  | call c =>
    simp only [serve] at h
    cases c with
    | set k value lifetime =>
      rw [perform] at h
      rcases set_cases v now k value lifetime with ⟨d, -, hd, -, hstate⟩ | ⟨-, -, hstate⟩ <;>
        rw [hstate] at h
      · by_cases hk : key = k
        · subst hk
          obtain rfl : _ = r := Option.some.inj ((find?_insert v key _).symm.trans h)
          exact .inr (isLive_of_deadline? hd)
        · rw [find?_insert_of_ne hk] at h
          exact .inl h
      · exact .inl h
    | get k =>
      rw [perform] at h
      rcases get_cases v now k with hstate | hstate <;> rw [hstate] at h
      · exact .inl h
      · exact .inl (find?_of_dropExpired h)
    | contains k =>
      rw [perform, contains_state] at h
      exact .inl h
    | delete k =>
      rw [perform, delete] at h
      split at h
      · exact .inl h
      · exact .inl (find?_of_erase h).2
    | consume k expected =>
      rw [perform] at h
      rcases consume_cases v now k expected with ⟨-, -, -, -, hstate⟩ | ⟨-, -, hstate | hstate⟩ <;>
        rw [hstate] at h
      · exact .inl (find?_of_erase h).2
      · exact .inl h
      · exact .inl (find?_of_dropExpired h)

end Passcode
