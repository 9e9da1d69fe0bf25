import Passcode.Proofs.Http.Admission

/-!
# What responses reveal

With a store, nothing that a caller is told depends on a code. The response to a request for a code
can be computed from the request and from how the surroundings fared; the response to a check from
the request and from whether the code was accepted. All that can go wrong with a check, and every
reason for which a code is not accepted, look the same.

## Main definitions

* `Verdict` — how the surroundings fared with a question
* `App.verifyCodeReply`, `App.checkReply` — the responses, computed from what they may reveal
* `App.accepts` — whether the service accepted a code while a request was handled

## Main statements

* `App.result_verifyCode`, `App.result_check` — the responses are those
* `App.reveals_only_outcomes` — so neither tells anything else
-/

namespace Passcode

/-! ## Verdicts -/

/-- How the surroundings fared with a question. -/
inductive Verdict where
  | yes
  | no
  | broken
deriving Repr, DecidableEq

namespace Verdict

/-- A question that was answered. -/
def ofBool (b : Bool) : Verdict := if b then yes else no

end Verdict

/-- How the surroundings fared with a question, without what their answer carries. -/
def Exchange.verdict : Exchange ServiceInterface → Verdict
  | ⟨.set .., .done stored⟩ => .ofBool stored
  | ⟨.get _, stored?⟩ => .ofBool stored?.isSome
  | ⟨.contains _, found⟩ => .ofBool found
  | ⟨.consume .., removed⟩ => .ofBool removed
  | ⟨.send _, .done (.sent _)⟩ => .yes
  | ⟨.send _, .done (.failed _)⟩ => .no
  | ⟨.set .., .panicked _⟩ | ⟨.send _, .panicked _⟩ => .broken

/-- The outcome of an issuance with a store, from how its store and then its channel fared. -/
def Outcome.ofVerdicts : List Verdict → Outcome
  | [.yes, .yes] => .success
  | [.yes, .no] => .deliveryError
  | [.no] => .storeError
  | _ => .exception

namespace Service

variable {s : Service} {identity submitted : String} {code : Code}

theorem IssueTrace.outcome_eq {asked : List (Exchange ServiceInterface)} {outcome : Outcome}
    (h : s.IssueTrace identity code asked outcome) :
    outcome = .ofVerdicts (asked.map Exchange.verdict) := by
  cases h <;> rfl

end Service

namespace Http

/-- The service was asked to check a code, and accepted it. -/
def isAcceptance : Exchange RequestInterface → Bool
  | ⟨.check .., .ok c⟩ => c.isAccepted
  | _ => false

namespace App

open Service

variable {σ : Type} {app : App} {answer : Flow.Surroundings ServiceInterface σ} {x : σ}
  {now : String} {code : Code} {r : Request}

/-- Whether the service accepted a code while a request was handled. -/
def accepts (app : App) (answer : Flow.Surroundings ServiceInterface σ) (now : String)
    (code : Code) (r : Request) (x : σ) : Bool :=
  (app.calls answer now code r x).any isAcceptance

/-- The response to a request for a code, from how the surroundings fared. -/
def verifyCodeReply (app : App) (r : Request) (verdicts : List Verdict) : Response :=
  match app.payload? VerifyCodeRequest.decode r with
  | none => unreadable
  | some d =>
    if d.invalidFields = [] then
      ⟨200, VerifyCodeResponse.toJson ⟨d.email, .ofVerdicts verdicts⟩⟩
    else ⟨400, VerifyCodeResponse.toJson ⟨d.email, .invalidArgument⟩⟩

/-- The response to a check, from whether the code was accepted. -/
def checkReply (app : App) (r : Request) (accepted : Bool) : Response :=
  match app.payload? CheckRequest.decode r with
  | none => unreadable
  | some d =>
    if d.invalidFields = [] then ⟨200, CheckResponse.toJson ⟨d.email, .success, accepted⟩⟩
    else ⟨400, (CheckResponse.failure d.email .invalidArgument).toJson⟩

/-- The response to a request for a code reveals how the surroundings fared. -/
theorem result_verifyCode (hstore : app.service.hasStore = true)
    (h : app.endpoint? r = some .verifyCode) :
    ((app.respond now code r).run answer x).result
      = app.verifyCodeReply r (((app.respond now code r).trace answer x).map Exchange.verdict) := by
  simp only [App.respond, App.handle, h, App.withPayload, verifyCodeReply]
  cases app.payload? VerifyCodeRequest.decode r with
  | none => rfl
  | some d =>
    by_cases hvalid : d.invalidFields = []
    · simp only [handleVerifyCode, if_pos hvalid]
      -- What is left is to issue a code, and to put the result into a response.
      obtain ⟨i, hi, hleads⟩ := Flow.Leads.of_map_done (Flow.run_leads answer
        ((app.service.issue d.email code).map fun i =>
          (⟨200, (VerifyCodeResponse.ofIssuance i).toJson⟩ : Response)) x)
      have hidentity : i.identity = d.email := hleads.returns (returns_issue app.service _ code)
      have houtcome := (issueTrace_of_leads hstore hleads).outcome_eq
      refine hi.symm.trans ?_
      rw [VerifyCodeResponse.ofIssuance, hidentity, houtcome]
      rfl
    · simp only [handleVerifyCode, if_neg hvalid]
      rfl

/-- The response to a check reveals whether the code was accepted. -/
theorem result_check (hstore : app.service.hasStore = true)
    (h : app.endpoint? r = some .check) :
    ((app.respond now code r).run answer x).result
      = app.checkReply r (app.accepts answer now code r x) := by
  rw [run_respond, accepts, calls]
  simp only [App.handle, h, App.withPayload, checkReply]
  cases app.payload? CheckRequest.decode r with
  | none => rfl
  | some d =>
    by_cases hvalid : d.invalidFields = []
    · simp only [handleCheck, if_pos hvalid]
      -- With a store, a check ends with a result whatever goes wrong, so the answer is no fault.
      have hleads := Flow.run_leads answer (app.service.check d.email d.code) x
      obtain ⟨c, hc, -⟩ := checkTrace_of_leads hstore hleads
      have hanswer : (app.service.atWork answer (.check d.email d.code) x).result = .ok c := hc
      simp only [Flow.run, Flow.trace]
      rw [hanswer]
      cases c <;> rfl
    · simp only [handleCheck, if_neg hvalid]
      rfl

/-- Whether a code was accepted is told if it was looked up at all. -/
theorem valid_checkReply (app : App) (r : Request) {email : String} {submitted? : Option String}
    (hreads : r.Reads app.limit .check email submitted?) (h : Acceptable email submitted?)
    (accepted : Bool) : (app.checkReply r accepted).member? "valid" = some (.bool accepted) := by
  obtain ⟨d, hd, rfl, rfl⟩ := hreads
  rw [checkReply, payload?_eq_some_iff.2 hd]
  simp only [if_pos (CheckRequest.invalidFields_eq_nil_iff.2 h)]
  rfl

/-- **What responses reveal.** With a store, the response to a request for a code is the same
whatever the code is, in any two states, as long as the surroundings fare the same. The response to
a check is a function of the request and of whether the code was accepted, and tells no less. -/
theorem reveals_only_outcomes (s : Service) (hstore : s.hasStore = true) (limit : Nat) :
    let app := App.ofService s limit
    (∀ {σ τ : Type} (f : Flow.Surroundings ServiceInterface σ)
        (g : Flow.Surroundings ServiceInterface τ) (x : σ) (y : τ) (now now' : String)
        (code code' : Code) (r : Request), Endpoint.verifyCode.route = (r.method, r.decodedPath) →
        ((app.respond now code r).trace f x).map Exchange.verdict
          = ((app.respond now' code' r).trace g y).map Exchange.verdict →
        ((app.respond now code r).run f x).result = ((app.respond now' code' r).run g y).result)
      ∧ ∃ reply : Request → Bool → Response,
        (∀ {σ : Type} (answer : Flow.Surroundings ServiceInterface σ) (x : σ) (now : String)
          (code : Code) (r : Request), Endpoint.check.route = (r.method, r.decodedPath) →
          ((app.respond now code r).run answer x).result
            = reply r (app.accepts answer now code r x))
        ∧ ∀ r email submitted?, r.Reads limit .check email submitted? →
          Acceptable email submitted? → ∀ accepted,
            (reply r accepted).member? "valid" = some (.bool accepted) := by
  intro app
  have hroutes : endpoints app.routes = [.health, .verifyCode, .check] := by
    rw [show app.routes = s.variant from rfl, Service.variant, if_pos hstore]
    rfl
  constructor
  · intro σ τ f g x y now now' code code' r hroute hverdicts
    have hendpoint : app.endpoint? r = some .verifyCode :=
      endpoint?_eq_some_iff.2 ⟨by simp [hroutes], hroute⟩
    rw [result_verifyCode hstore hendpoint, result_verifyCode hstore hendpoint, hverdicts]
  · refine ⟨app.checkReply, ?_, fun r _ _ => app.valid_checkReply r⟩
    intro σ answer x now code r hroute
    exact result_check hstore (endpoint?_eq_some_iff.2 ⟨by simp [hroutes], hroute⟩)

/-- Two codes for one address, and a wrong code looked up where another one is stored and during an
outage. -/
theorem wrong_code_looks_like_outage :
    let app := App.ofService ⟨true, "Mock", {}⟩ 4096
    let post (path body : String) : Request :=
      ⟨"POST", path, some "application/json", Text.utf8Bytes body.toList⟩
    let ask := post "/api/v1/verify-code" "\x7b\"email\":\"a\"\x7d"
    let check := post "/api/v1/verify-code/check" "\x7b\"email\":\"a\",\"code\":\"1\"\x7d"
    let mail (id : String) := Site.answer (.done (.sent id))
    let stored : Site := { vault := Vault.insert {} "verify_code_a" ⟨"2", none⟩, clock := 0 }
    let failing : Site := { vault := { outage := true }, clock := 0 }
    ((app.respond "" (Code.ofDraw 0) ask).run (mail "1") stored).result
        = ((app.respond "" (Code.ofDraw 1) ask).run (mail "2") { clock := 5 }).result
      ∧ app.accepts (mail "1") "" default check stored = false
      ∧ app.accepts (mail "1") "" default check failing = false
      ∧ ((app.respond "" default check).run (mail "1") stored).result
        = ((app.respond "" default check).run (mail "1") failing).result := by
  intro app post ask check mail stored failing
  obtain ⟨hask, reply, hcheck, -⟩ := reveals_only_outcomes ⟨true, "Mock", {}⟩ rfl 4096
  have hasked : Endpoint.verifyCode.route = (ask.method, ask.decodedPath) := by decide +kernel
  have hverdicts : ((app.respond "" (Code.ofDraw 0) ask).trace (mail "1") stored).map
        Exchange.verdict
      = ((app.respond "" (Code.ofDraw 1) ask).trace (mail "2") { clock := 5 }).map
        Exchange.verdict := by decide +kernel
  have hchecked : Endpoint.check.route = (check.method, check.decodedPath) := by decide +kernel
  have hstored : app.accepts (mail "1") "" default check stored = false := by decide +kernel
  have hfailing : app.accepts (mail "1") "" default check failing = false := by decide +kernel
  refine ⟨hask _ _ _ _ "" "" _ _ ask hasked hverdicts, hstored, hfailing, ?_⟩
  refine (hcheck (mail "1") stored "" default check hchecked).trans ?_
  refine Eq.trans ?_ (hcheck (mail "1") failing "" default check hchecked).symm
  exact congrArg (reply check) (hstored.trans hfailing.symm)

end App

end Http

end Passcode
