import Passcode.Proofs.Redis.Dropped
import Passcode.Proofs.Store.Request

/-!
# Outages of a vault

A call that is made during an outage is answered negatively and leaves the vault as it is, down to
the records that have expired and not been dropped yet. So such calls can be left out of a run:
nobody notices, neither in an answer nor in what the vault holds at the end. Time passes during an
outage as ever, and what is no call of a store is served as ever.

## Main definitions

* `VaultStep.underOutage` — whether each step of a run happens during an outage
* `VaultStep.withoutLost` — a run without the calls that are made during an outage

## Main statements

* `Vault.serve_call_of_outage` — a call during an outage
* `outage_leaves_no_trace` — every run, with any number of outages
-/

namespace Passcode

namespace VaultStep

variable {β : Type}

/-- Whether an outage goes on after a step, given whether one went on before it. -/
def outageAfter (before : Bool) : VaultStep → Bool
  | .change (.outage on) => on
  | _ => before

/-- Whether a step is a call of the store. -/
def isCall : VaultStep → Bool
  | .request (.call _) => true
  | _ => false

/-- The elements of a run, each with whether an outage goes on when its step is made; `before` says
whether one goes on at the start. -/
def underOutage (step : β → VaultStep) : Bool → List β → List (Bool × β)
  | _, [] => []
  | before, b :: rest => (before, b) :: underOutage step ((step b).outageAfter before) rest

/-- A run without the calls that are made during an outage. -/
def withoutLost (step : β → VaultStep) (before : Bool) (run : List β) : List β :=
  ((underOutage step before run).filter fun x => !(x.1 && (step x.2).isCall)).map (·.2)

theorem withoutLost_cons (step : β → VaultStep) (before : Bool) (b : β) (rest : List β) :
    withoutLost step before (b :: rest)
      = if before && (step b).isCall then withoutLost step ((step b).outageAfter before) rest
        else b :: withoutLost step ((step b).outageAfter before) rest := by
  simp only [withoutLost, underOutage, List.filter_cons]
  cases before && (step b).isCall <;> rfl

end VaultStep

namespace Vault

variable {s : Clocked Vault}

/-- **One call during an outage** is answered negatively and leaves everything as it is. -/
theorem serve_call_of_outage {v : Vault} (h : v.outage = true) (now : Nat) (c : StoreCall) :
    (v.serve now (.call c)).result = c.negative ∧ (v.serve now (.call c)).state = v := by
  refine ⟨?_, perform_of_outage h now c⟩
  cases c <;> simp only [serve, perform, set, get, contains, delete, consume, h] <;> rfl

/-- Only a change of its own starts or ends an outage. -/
theorem act_outage (q : VaultStep) (s : Clocked Vault) :
    (act q s).state.store.outage = q.outageAfter s.store.outage := by
  cases q with
  | request r => exact serve_outage s.store s.clock r
  | change e => cases e <;> rfl

/-- A call during an outage leaves the vault and its clock as they are. -/
theorem act_of_lost {q : VaultStep} (h : (s.store.outage && q.isCall) = true) :
    (act q s).state = s := by
  obtain ⟨houtage, hcall⟩ := (Bool.and_eq_true _ _).mp h
  cases q with
  | change e => cases hcall
  | request r =>
    cases r with
    | call c =>
      exact congrArg (fun store => { s with store }) (serve_call_of_outage houtage s.clock c).2
    | remaining key => cases hcall
    | size => cases hcall
    | purge => cases hcall

end Vault

open VaultStep

/-- **An outage leaves no trace.** Every call of the store that is made during an outage is answered
negatively. Without these calls all other steps of the run have the same answers, and the vault
and its clock end up the same. -/
theorem outage_leaves_no_trace (s : Clocked Vault) (steps : List VaultStep) :
    let whole := (Flow.askAll steps).run Vault.act s
    let rest := (Flow.askAll (withoutLost id s.store.outage steps)).run Vault.act s
    (∀ c answer, (true, ⟨.request (.call c), answer⟩)
        ∈ underOutage Exchange.question s.store.outage whole.result → answer = c.negative)
      ∧ withoutLost Exchange.question s.store.outage whole.result = rest.result
      ∧ whole.state = rest.state := by
  induction steps generalizing s with
  | nil => exact ⟨fun _ _ h => absurd h List.not_mem_nil, rfl, rfl⟩
  | cons q steps ih =>
    obtain ⟨hlost, hresult, hstate⟩ := ih (Vault.act q s).state
    rw [Vault.act_outage] at hlost hresult hstate
    intro whole rest
    have hwhole : whole = _ := Flow.run_askAll_cons Vault.act q steps s
    rw [hwhole]
    refine ⟨?_, ?_⟩
    · rintro c answer hx
      rcases List.mem_cons.1 hx with hx | hx
      · obtain ⟨houtage, hx⟩ := Prod.mk.inj hx
        cases hx
        exact (Vault.serve_call_of_outage houtage.symm s.clock c).1
      · exact hlost c answer hx
    · have hsteps := withoutLost_cons id s.store.outage q steps
      rw [withoutLost_cons]
      cases h : s.store.outage && q.isCall with
      | true =>
        -- The call is left out, and what comes after it starts from where the call started.
        rw [id, h, if_pos rfl] at hsteps
        rw [Vault.act_of_lost h] at hresult hstate ⊢
        rw [if_pos rfl]
        simp only [rest, hsteps]
        exact ⟨hresult, hstate⟩
      | false =>
        rw [id, h, if_neg Bool.false_ne_true] at hsteps
        have hrest := Flow.run_askAll_cons Vault.act q
          (withoutLost id (q.outageAfter s.store.outage) steps) s
        rw [if_neg Bool.false_ne_true]
        simp only [rest, hsteps, hrest]
        exact ⟨congrArg _ hresult, hstate⟩

end Passcode
