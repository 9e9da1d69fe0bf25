import Passcode.Http.App
import Passcode.Proofs.Flow.Run
import Passcode.Proofs.Service.Site

/-!
# Which requests reach the service

A request that is posted to an endpoint is served or rejected, and its body alone decides which:
whether it may be read, whether it can be read, and how long the texts in it are. A request that is
served reaches the service once, with exactly what the body holds; one that is rejected leaves
everything as it is.

## Main definitions

* `Request.Holds`, `Request.Reads` — what a body holds
* `Acceptable` — the lengths of what may reach the service
* `App.calls` — the exchanges with the service while a request is handled
* `App.Handling` — the ways in which a request can be handled

## Main statements

* `App.endpoint?_eq_some_iff` — which endpoint a request is for
* `App.handling` — every request that is posted to an endpoint is handled in one of two ways
* `App.reaches_service_iff_acceptable` — which requests reach the service, and with what effect
-/

namespace Passcode

/-! ## The service at work -/

namespace Service

variable {σ : Type}

/-- A service at work in its surroundings, as the surroundings of whoever calls it. -/
def atWork (s : Service) (answer : Flow.Surroundings ServiceInterface σ) :
    Flow.Surroundings RequestInterface σ :=
  fun call x => (s.serve call).run answer x

end Service

/-- An issuance is answered with the identity it was for. -/
def ServiceRequest.Echoed : (call : ServiceRequest) → call.Answer → Prop
  | .issue identity _, r => r.identity = identity
  | .check .., _ => True

theorem Service.echoed_serve {σ : Type} (s : Service) (call : ServiceRequest)
    (answer : Flow.Surroundings ServiceInterface σ) (x : σ) :
    call.Echoed (s.atWork answer call x).result := by
  cases call with
  | issue identity code => exact (returns_issue s identity code).run answer x
  | check identity submitted => trivial

namespace Http

/-! ## Endpoints -/

/-- No two endpoints share a route. -/
theorem Endpoint.route_inj {e e' : Endpoint} (h : e.route = e'.route) : e = e' := by
  cases e <;> cases e' <;> first | rfl | exact absurd h (by decide)

/-- A request is for the endpoint with its method and its path, if the application has it. -/
theorem App.endpoint?_eq_some_iff {app : App} {r : Request} {e : Endpoint} :
    app.endpoint? r = some e ↔ e ∈ endpoints app.routes ∧ e.route = (r.method, r.decodedPath) := by
  constructor
  · intro h
    exact ⟨List.mem_of_find?_eq_some h, by simpa using List.find?_some h⟩
  · rintro ⟨hmem, hroute⟩
    have hfound : (app.endpoint? r).isSome := by
      rw [App.endpoint?, List.find?_isSome]
      exact ⟨e, hmem, by simpa using hroute⟩
    obtain ⟨e', he'⟩ := Option.isSome_iff_exists.1 hfound
    have hroute' : e'.route = (r.method, r.decodedPath) := by simpa using List.find?_some he'
    rw [he', Endpoint.route_inj (hroute'.trans hroute.symm)]

/-- Nothing is posted to the health of the program. -/
theorem App.not_post_of_health {app : App} {r : Request} (h : app.endpoint? r = some .health) :
    r.method ≠ "POST" := by
  have hget : Endpoint.health.route.1 = r.method :=
    congrArg Prod.fst (App.endpoint?_eq_some_iff.1 h).2
  rw [← hget]
  decide

/-! ## What a body holds -/

/-- The body of a request may be read, being declared as JSON and within the limit, and what is
read is `a`. -/
structure Request.Holds {α : Type} (r : Request) (limit : Nat) (decode : Json.Decoder α) (a : α) :
    Prop where
  json : ∃ contentType, r.contentType? = some contentType ∧ isJsonType contentType = true
  declared : ∀ length, r.body.declaredLength? = some length → length ≤ limit
  actual : r.body.bytes.length ≤ limit
  decodes : decodeBody decode r.body.bytes = .ok a

variable {α : Type} {app : App} {r : Request} {decode : Json.Decoder α} {limit : Nat}

theorem Request.Holds.unique {a b : α} (ha : r.Holds limit decode a) (hb : r.Holds limit decode b) :
    a = b :=
  Except.ok.inj (ha.decodes.symm.trans hb.decodes)

theorem Body.fits_iff {b : Body} :
    b.fits limit = true ↔ (∀ length, b.declaredLength? = some length → length ≤ limit)
      ∧ b.bytes.length ≤ limit := by
  rw [Body.fits, Bool.and_eq_true, decide_eq_true_eq, Option.all_eq_true]
  simp

theorem App.payload?_eq_some_iff {a : α} :
    app.payload? decode r = some a ↔ r.Holds app.limit decode a := by
  unfold App.payload?
  constructor
  · intro h
    split at h
    · next hread =>
      rw [Bool.and_eq_true, Option.any_eq_true, Body.fits_iff] at hread
      obtain ⟨hjson, hdeclared, hactual⟩ := hread
      refine ⟨hjson, hdeclared, hactual, ?_⟩
      cases hdecode : decodeBody decode r.body.bytes with
      | error fault =>
        rw [hdecode] at h
        exact absurd h nofun
      | ok b =>
        rw [hdecode] at h
        rw [Option.some.inj h]
    · exact absurd h nofun
  · rintro ⟨hjson, hdeclared, hactual, hdecodes⟩
    rw [if_pos, hdecodes]
    · rfl
    · rw [Bool.and_eq_true, Option.any_eq_true, Body.fits_iff]
      exact ⟨hjson, hdeclared, hactual⟩

/-- The body of a request to an endpoint holds an address, and a submitted code if it is to be
checked. -/
def Request.Reads (r : Request) (limit : Nat) : Endpoint → String → Option String → Prop
  | .health, _, _ => False
  | .captcha, email, submitted? =>
    ∃ d, r.Holds limit CaptchaRequest.decode d ∧ email = d.email ∧ submitted? = none
  | .verifyCode, email, submitted? =>
    ∃ d, r.Holds limit VerifyCodeRequest.decode d ∧ email = d.email ∧ submitted? = none
  | .check, email, submitted? =>
    ∃ d, r.Holds limit CheckRequest.decode d ∧ email = d.email ∧ submitted? = some d.code

theorem Request.Reads.unique {e : Endpoint} {email email' : String}
    {submitted? submitted?' : Option String} (h : r.Reads limit e email submitted?)
    (h' : r.Reads limit e email' submitted?') : email = email' ∧ submitted? = submitted?' := by
  cases e with
  | health => exact h.elim
  | captcha | verifyCode | check =>
    obtain ⟨d, hd, rfl, rfl⟩ := h
    obtain ⟨d', hd', rfl, rfl⟩ := h'
    obtain rfl := hd.unique hd'
    exact ⟨rfl, rfl⟩

/-- The lengths, in characters, of what may reach the service. -/
def Acceptable (email : String) (submitted? : Option String) : Prop :=
  (1 ≤ email.length ∧ email.length ≤ 254)
    ∧ ∀ submitted, submitted? = some submitted → 1 ≤ submitted.length ∧ submitted.length ≤ 16

theorem hasLength_iff {most : Nat} {s : String} :
    hasLength most s = true ↔ 1 ≤ s.length ∧ s.length ≤ most := by
  simp [hasLength]

theorem CaptchaRequest.invalidFields_eq_nil_iff {d : CaptchaRequest} :
    d.invalidFields = [] ↔ Acceptable d.email none := by
  rw [invalidFields, ite_eq_left_iff]
  simp [Acceptable, ← hasLength_iff, maxEmailLength]

theorem VerifyCodeRequest.invalidFields_eq_nil_iff {d : VerifyCodeRequest} :
    d.invalidFields = [] ↔ Acceptable d.email none := by
  rw [invalidFields, ite_eq_left_iff]
  simp [Acceptable, ← hasLength_iff, maxEmailLength]

theorem CheckRequest.invalidFields_eq_nil_iff {d : CheckRequest} :
    d.invalidFields = [] ↔ Acceptable d.email (some d.code) := by
  rw [invalidFields, List.append_eq_nil_iff, ite_eq_left_iff, ite_eq_left_iff]
  simp [Acceptable, ← hasLength_iff, maxEmailLength, maxCodeLength]

/-! ## Responses -/

/-- A member of the body of a response. -/
def Response.member? (response : Response) (name : String) : Option Json.Value :=
  match response.body with
  | .object members => members.lookup name
  | _ => none

/-- A response with the given status that names an address. -/
structure Response.Answers (status : Nat) (email : String) (response : Response) : Prop where
  status : response.status = status
  email : response.member? "email" = some (.string email)

/-! ## The ways to handle a request -/

/-- What is asked of the service: to check a submitted code, or to issue one. -/
def callOf (code : Code) (email : String) : Option String → ServiceRequest
  | none => .issue email code
  | some submitted => .check email submitted

/-- The two ways in which a request to an endpoint can be handled. -/
inductive App.Handling (app : App) (code : Code) (r : Request) (e : Endpoint) :
    Flow RequestInterface Response → Prop
  | rejected {event : Event} {response : Response}
      (refused : ∀ email submitted?, r.Reads app.limit e email submitted? →
        ¬Acceptable email submitted? ∧ response.member? "email" = some (.string email))
      (uncounted : event.key? = none) (status : response.status = 400)
      (error : response.member? "error" = some (.int 4)) :
      Handling app code r e (.log event (.done response))
  | served {email : String} {submitted? : Option String}
      {next : (callOf code email submitted?).Answer → Flow RequestInterface Response}
      (reads : r.Reads app.limit e email submitted?) (h : Acceptable email submitted?)
      (silent : ∀ a, (next a).AsksOnly fun _ => False)
      (answers : ∀ a, (callOf code email submitted?).Echoed a →
        (next a).Returns (Response.Answers 200 email)) :
      Handling app code r e (.ask (callOf code email submitted?) next)

namespace App

variable {code : Code} {e : Endpoint}

/-- A body that cannot be read is rejected before anything else happens; then the lengths of what
was read decide. -/
theorem handling_withPayload {handle : α → Flow RequestInterface Response} (email : α → String)
    (submitted? : α → Option String)
    (hreads : ∀ email' submitted?', r.Reads app.limit e email' submitted?' ↔
      ∃ d, r.Holds app.limit decode d ∧ email' = email d ∧ submitted?' = submitted? d)
    (hserved : ∀ d, Acceptable (email d) (submitted? d) →
      ∃ next, handle d = .ask (callOf code (email d) (submitted? d)) next
        ∧ (∀ a, (next a).AsksOnly fun _ => False)
        ∧ ∀ a, (callOf code (email d) (submitted? d)).Echoed a →
          (next a).Returns (Response.Answers 200 (email d)))
    (hrefused : ∀ d, ¬Acceptable (email d) (submitted? d) →
      ∃ event response, handle d = .log event (.done response) ∧ event.key? = none
        ∧ response.Answers 400 (email d) ∧ response.member? "error" = some (.int 4)) :
    app.Handling code r e (app.withPayload decode r handle) := by
  unfold App.withPayload
  cases hpayload : app.payload? decode r with
  | none =>
    refine .rejected (fun email' submitted?' h => ?_) rfl rfl rfl
    obtain ⟨d, hd, -⟩ := (hreads email' submitted?').1 h
    rw [payload?_eq_some_iff.2 hd] at hpayload
    exact absurd hpayload nofun
  | some d =>
    have hd : r.Holds app.limit decode d := payload?_eq_some_iff.1 hpayload
    by_cases hacceptable : Acceptable (email d) (submitted? d)
    · obtain ⟨next, hnext, hsilent, hanswers⟩ := hserved d hacceptable
      simp only [hnext]
      exact .served ((hreads _ _).2 ⟨d, hd, rfl, rfl⟩) hacceptable hsilent hanswers
    · obtain ⟨event, response, hevent, huncounted, hanswers, herror⟩ := hrefused d hacceptable
      simp only [hevent]
      refine .rejected (fun email' submitted?' h => ?_) huncounted hanswers.status herror
      obtain ⟨d', hd', rfl, rfl⟩ := (hreads email' submitted?').1 h
      obtain rfl := hd.unique hd'
      exact ⟨hacceptable, hanswers.email⟩

theorem handling_captcha :
    app.Handling code r .captcha
      (app.withPayload CaptchaRequest.decode r (handleCaptcha code)) := by
  refine handling_withPayload CaptchaRequest.email (fun _ => none) (fun _ _ => Iff.rfl)
    (fun d h => ?_) (fun d h => ?_)
  · refine ⟨_, if_pos (CaptchaRequest.invalidFields_eq_nil_iff.2 h), fun _ => trivial, ?_⟩
    intro i hi
    exact ⟨rfl, congrArg (fun email => some (Json.Value.string email)) hi⟩
  · exact ⟨_, _, if_neg (mt CaptchaRequest.invalidFields_eq_nil_iff.1 h), rfl, ⟨rfl, rfl⟩, rfl⟩

theorem handling_verifyCode :
    app.Handling code r .verifyCode
      (app.withPayload VerifyCodeRequest.decode r (handleVerifyCode code)) := by
  refine handling_withPayload VerifyCodeRequest.email (fun _ => none) (fun _ _ => Iff.rfl)
    (fun d h => ?_) (fun d h => ?_)
  · refine ⟨_, if_pos (VerifyCodeRequest.invalidFields_eq_nil_iff.2 h), fun _ => trivial, ?_⟩
    intro i hi
    exact ⟨rfl, congrArg (fun email => some (Json.Value.string email)) hi⟩
  · exact ⟨_, _, if_neg (mt VerifyCodeRequest.invalidFields_eq_nil_iff.1 h), rfl, ⟨rfl, rfl⟩, rfl⟩

theorem handling_check :
    app.Handling code r .check (app.withPayload CheckRequest.decode r handleCheck) := by
  refine handling_withPayload CheckRequest.email (fun d => some d.code) (fun _ _ => Iff.rfl)
    (fun d h => ?_) (fun d h => ?_)
  · refine ⟨_, if_pos (CheckRequest.invalidFields_eq_nil_iff.2 h), fun a => ?_, fun a _ => ?_⟩
    · cases a <;> trivial
    · cases a <;> exact ⟨rfl, rfl⟩
  · exact ⟨_, _, if_neg (mt CheckRequest.invalidFields_eq_nil_iff.1 h), rfl, ⟨rfl, rfl⟩, rfl⟩

/-- **Served or rejected.** Every request that is posted to an endpoint is handled in one of two
ways. -/
theorem handling (now : String) (code : Code) (h : app.endpoint? r = some e)
    (hpost : r.method = "POST") : app.Handling code r e (app.handle now code r) := by
  simp only [App.handle, h]
  cases e with
  | health => exact absurd hpost (not_post_of_health h)
  | captcha => exact handling_captcha
  | verifyCode => exact handling_verifyCode
  | check => exact handling_check

/-! ## The service while a request is handled -/

variable {σ : Type} {answer : Flow.Surroundings ServiceInterface σ}

/-- The exchanges with the service while a request is handled. -/
def calls (app : App) (answer : Flow.Surroundings ServiceInterface σ) (now : String) (code : Code)
    (r : Request) (x : σ) : List (Exchange RequestInterface) :=
  (app.handle now code r).trace (app.service.atWork answer) x

theorem run_respond (app : App) (now : String) (code : Code) (r : Request)
    (answer : Flow.Surroundings ServiceInterface σ) (x : σ) :
    (app.respond now code r).run answer x
      = (app.handle now code r).run (app.service.atWork answer) x :=
  Flow.run_interpret (I := RequestInterface) answer app.service.serve (app.handle now code r) x

/-- **Which requests reach the service, and with what effect.** A request that is posted to an
endpoint reaches the service if its body holds acceptable texts, and then once. Otherwise it leaves
everything as it is, and nothing is counted. What the body holds is told back in any case. -/
theorem reaches_service_iff_acceptable (s : Service) (limit : Nat)
    (answer : Flow.Surroundings ServiceInterface σ) (x : σ) (now : String) (code : Code)
    (r : Request) (e : Endpoint) (hmounted : e ∈ endpoints s.variant)
    (hroute : e.route = (r.method, r.decodedPath)) (hpost : r.method = "POST") :
    let app := App.ofService s limit
    let run := (app.respond now code r).run answer x
    let calls := (app.calls answer now code r x).map (·.question)
    (calls ≠ [] ↔
        ∃ email submitted?, r.Reads limit e email submitted? ∧ Acceptable email submitted?)
      ∧ (∀ email submitted?, r.Reads limit e email submitted? →
        run.result.member? "email" = some (.string email)
          ∧ (Acceptable email submitted? → run.result.status = 200
            ∧ calls = [callOf code email submitted?]
            ∧ run.state = ((s.serve (callOf code email submitted?)).run answer x).state))
      ∧ (calls = [] → run.result.status = 400
        ∧ run.result.member? "error" = some (.int 4) ∧ run.state = x
        ∧ ∀ event ∈ run.events, ∀ name, event.key? = some name →
          ¬"otp_".toList <+: name.toList) := by
  intro app run calls
  have hhandling := app.handling now code (endpoint?_eq_some_iff.2 ⟨hmounted, hroute⟩) hpost
  have hrun : run = (app.handle now code r).run (s.atWork answer) x :=
    app.run_respond now code r answer x
  have hcalls : calls = ((app.handle now code r).trace (s.atWork answer) x).map (·.question) := rfl
  rw [hrun, hcalls]
  -- From here on the two ways of handling say all that there is to know about the request.
  generalize app.handle now code r = m at hhandling
  cases hhandling with
  | rejected refused uncounted status error =>
    refine ⟨?_, ?_, ?_⟩
    · refine iff_of_false (fun hne => hne rfl) ?_
      rintro ⟨email, submitted?, hreads, hacceptable⟩
      exact (refused email submitted? hreads).1 hacceptable
    · intro email submitted? hreads
      obtain ⟨hnot, hemail⟩ := refused email submitted? hreads
      exact ⟨hemail, fun hacceptable => absurd hacceptable hnot⟩
    · intro _
      refine ⟨status, error, rfl, ?_⟩
      intro event hevent name hname
      obtain rfl := List.mem_singleton.1 hevent
      rw [uncounted] at hname
      exact absurd hname nofun
  | @served email submitted? next reads h silent answers =>
    let call := callOf code email submitted?
    obtain ⟨htrace, hstate⟩ := Flow.run_ask_of_silent (s.atWork answer) x (silent _)
    have hanswers := (answers _ (s.echoed_serve call answer x)).run (s.atWork answer)
      (s.atWork answer call x).state
    refine ⟨?_, ?_, ?_⟩
    · exact iff_of_true (List.cons_ne_nil _ _) ⟨_, _, reads, h⟩
    · intro email submitted? hreads
      obtain ⟨rfl, rfl⟩ := reads.unique hreads
      refine ⟨hanswers.email, fun _ => ⟨hanswers.status, ?_, hstate⟩⟩
      rw [htrace]
      rfl
    · intro hnone
      exact absurd hnone (List.cons_ne_nil _ _)

/-- An address counts in characters, of which one takes two bytes here; the body is exactly as long
as the limit. -/
theorem address_beyond_ascii_reaches_service :
    let s : Service := ⟨true, "Mock", {}⟩
    let body := "\x7b\"code\":\"123456\",\"email\":\"josé@example.com\"\x7d"
    let r : Request := ⟨"POST", "/api/v1/verify-code/check?again", some "application/json",
      ⟨Text.utf8Bytes body.toList, some "45"⟩⟩
    let answer := Site.answer (.panicked none)
    let site : Site := { clock := 0 }
    let code := Code.ofDraw 0
    Endpoint.check ∈ endpoints s.variant ∧ Endpoint.check.route = (r.method, r.decodedPath)
      ∧ r.method = "POST"
      ∧ (((App.ofService s 45).respond "" code r).run answer site).result.status = 200
      ∧ ((App.ofService s 45).calls answer "" code r site).map (·.question)
        = [.check "josé@example.com" "123456"] := by
  intro s body r answer site code
  have hmounted : Endpoint.check ∈ endpoints s.variant := by decide
  have hroute : Endpoint.check.route = (r.method, r.decodedPath) := by decide +kernel
  have hpayload : (App.ofService s 45).payload? CheckRequest.decode r
      = some ⟨"josé@example.com", "123456"⟩ := by decide +kernel
  have hreads : r.Reads 45 .check "josé@example.com" (some "123456") :=
    ⟨_, payload?_eq_some_iff.1 hpayload, rfl, rfl⟩
  have hacceptable : Acceptable "josé@example.com" (some "123456") := by
    refine ⟨by decide +kernel, fun submitted hsubmitted => ?_⟩
    obtain rfl := Option.some.inj hsubmitted
    decide +kernel
  have h := reaches_service_iff_acceptable s 45 answer site "" code r .check hmounted hroute rfl
  obtain ⟨hstatus, hcalls, -⟩ := (h.2.1 _ _ hreads).2 hacceptable
  exact ⟨hmounted, hroute, rfl, hstatus, hcalls⟩

end App

end Http

end Passcode
