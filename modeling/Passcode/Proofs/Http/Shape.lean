import Passcode.Proofs.Http.Admission
import Passcode.Proofs.Http.Payload

/-!
# The shape of responses

Each endpoint that takes requests by post has a response of its own. Whatever is posted to it, what
comes back has that shape, with one exception: a body that cannot be read is answered in the same
way by every endpoint, and that answer has no place for the verdict of a check.

## Main definitions

* `Endpoint.Shapes` — a text is a response of an endpoint

## Main statements

* `Endpoint.Writes.shapes` — what an endpoint writes has its shape
* `App.returns_handle_of_readable`, `App.handle_of_unreadable` — what a request is answered with
* `App.shapes_iff_readable` — which responses have the shape of their endpoint
-/

namespace Passcode.Http

/-- A text is a response of an endpoint. -/
def Endpoint.Shapes (text : String) : Endpoint → Prop
  | .health => False
  | .captcha => ∃ d, Json.decodeText CaptchaResponse.decode text = .ok d
  | .verifyCode => ∃ d, Json.decodeText VerifyCodeResponse.decode text = .ok d
  | .check => ∃ d, Json.decodeText CheckResponse.decode text = .ok d

/-- The body of a request to an endpoint can be read. -/
def Request.Readable (r : Request) (limit : Nat) (e : Endpoint) : Prop :=
  ∃ email submitted?, r.Reads limit e email submitted?

/-! ## What a request may be answered with -/

/-- The body of a response is one of an endpoint, as the endpoint writes it. -/
def Endpoint.Writes (body : Json.Value) : Endpoint → Prop
  | .health => False
  | .captcha => ∃ d : CaptchaResponse, body = d.toJson
  | .verifyCode => ∃ d : VerifyCodeResponse, body = d.toJson
  | .check => ∃ d : CheckResponse, body = d.toJson

theorem Endpoint.Writes.shapes {e : Endpoint} {body : Json.Value} (h : e.Writes body) :
    e.Shapes body.render := by
  cases e with
  | health => exact h
  | captcha =>
    obtain ⟨d, rfl⟩ := h
    exact ⟨d, CaptchaResponse.readsBack d⟩
  | verifyCode =>
    obtain ⟨d, rfl⟩ := h
    exact ⟨d, VerifyCodeResponse.readsBack d⟩
  | check =>
    obtain ⟨d, rfl⟩ := h
    exact ⟨d, CheckResponse.readsBack d⟩

theorem exact_unreadable : unreadable.body.Exact :=
  ⟨trivial, ⟨by decide, by decide⟩, trivial⟩

/-- The answer to an unreadable body has the shape of an issuance. -/
theorem shapes_unreadable {e : Endpoint} (h : e = .captcha ∨ e = .verifyCode) :
    e.Shapes unreadable.body.render := by
  obtain rfl | rfl := h
  · exact ⟨_, CaptchaResponse.readsBack ⟨"", .invalidArgument, none⟩⟩
  · exact ⟨_, VerifyCodeResponse.readsBack ⟨"", .invalidArgument⟩⟩

/-- The answer to an unreadable body has no place for a verdict. -/
theorem decodeText_unreadable :
    Json.decodeText CheckResponse.decode unreadable.body.render
      = .error (.data "missing field `valid`") :=
  (Json.decodeText_render exact_unreadable _).trans rfl

theorem not_shapes_unreadable : ¬Endpoint.check.Shapes unreadable.body.render := by
  rintro ⟨d, hd⟩
  rw [decodeText_unreadable] at hd
  exact absurd hd nofun

namespace App

variable {app : App} {r : Request} {e : Endpoint} {code : Code}

theorem withPayload_of_holds {α : Type} {decode : Json.Decoder α} {a : α}
    (h : r.Holds app.limit decode a) (handle : α → Flow RequestInterface Response) :
    app.withPayload decode r handle = handle a := by
  rw [App.withPayload, payload?_eq_some_iff.2 h]

theorem withPayload_of_unreadable {α : Type} {decode : Json.Decoder α}
    (h : ∀ a, ¬r.Holds app.limit decode a) (handle : α → Flow RequestInterface Response) :
    app.withPayload decode r handle = .log (.bodyRejected r.rawPath) (.done unreadable) := by
  unfold App.withPayload
  cases hpayload : app.payload? decode r with
  | none => rfl
  | some a => exact absurd (payload?_eq_some_iff.1 hpayload) (h a)

theorem returns_handleCaptcha (code : Code) (d : CaptchaRequest) :
    (handleCaptcha code d).Returns fun response => Endpoint.captcha.Writes response.body := by
  unfold handleCaptcha
  split
  · exact fun i => ⟨_, rfl⟩
  · exact ⟨_, rfl⟩

theorem returns_handleVerifyCode (code : Code) (d : VerifyCodeRequest) :
    (handleVerifyCode code d).Returns fun response => Endpoint.verifyCode.Writes response.body := by
  unfold handleVerifyCode
  split
  · exact fun i => ⟨_, rfl⟩
  · exact ⟨_, rfl⟩

theorem returns_handleCheck (d : CheckRequest) :
    (handleCheck d).Returns fun response => Endpoint.check.Writes response.body := by
  unfold handleCheck
  split
  · intro answer
    cases answer <;> exact ⟨_, rfl⟩
  · exact ⟨_, rfl⟩

/-- A body that can be read is answered with a response of the endpoint. -/
theorem returns_handle_of_readable (now : String) (code : Code) (h : app.endpoint? r = some e)
    (hreadable : r.Readable app.limit e) :
    (app.handle now code r).Returns fun response => e.Writes response.body := by
  obtain ⟨email, submitted?, hreads⟩ := hreadable
  simp only [App.handle, h]
  cases e with
  | health => exact hreads.elim
  | captcha =>
    obtain ⟨d, hd, -⟩ := hreads
    simp only [withPayload_of_holds hd]
    exact returns_handleCaptcha code d
  | verifyCode =>
    obtain ⟨d, hd, -⟩ := hreads
    simp only [withPayload_of_holds hd]
    exact returns_handleVerifyCode code d
  | check =>
    obtain ⟨d, hd, -⟩ := hreads
    simp only [withPayload_of_holds hd]
    exact returns_handleCheck d

/-- A body that cannot be read is answered in the same way by every endpoint. -/
theorem handle_of_unreadable (now : String) (code : Code) (h : app.endpoint? r = some e)
    (hpost : r.method = "POST") (hunreadable : ¬r.Readable app.limit e) :
    app.handle now code r = .log (.bodyRejected r.rawPath) (.done unreadable) := by
  simp only [App.handle, h]
  cases e with
  | health => exact absurd hpost (not_post_of_health h)
  | captcha | verifyCode | check =>
    exact withPayload_of_unreadable (fun d hd => hunreadable ⟨_, _, d, hd, rfl, rfl⟩) _

variable {σ : Type}

/-- **The shape of responses.** Whatever is posted to an endpoint, the response has the shape of
the endpoint, except that the response to a check whose body cannot be read lacks the verdict. -/
theorem shapes_iff_readable (s : Service) (limit : Nat)
    (answer : Flow.Surroundings ServiceInterface σ) (x : σ) (now : String) (code : Code)
    (r : Request) (e : Endpoint) (hmounted : e ∈ endpoints s.variant)
    (hroute : e.route = (r.method, r.decodedPath)) (hpost : r.method = "POST") :
    e.Shapes (((App.ofService s limit).respond now code r).run answer x).result.body.render
      ↔ (e = .check → r.Readable limit .check) := by
  have h : (App.ofService s limit).endpoint? r = some e :=
    endpoint?_eq_some_iff.2 ⟨hmounted, hroute⟩
  rw [run_respond]
  by_cases hreadable : r.Readable limit e
  · refine iff_of_true ?_ (fun he => he ▸ hreadable)
    exact ((returns_handle_of_readable now code h hreadable).run _ x).shapes
  · rw [handle_of_unreadable now code h hpost hreadable]
    cases e with
    | health => exact absurd hpost (not_post_of_health h)
    | captcha => exact iff_of_true (shapes_unreadable (.inl rfl)) nofun
    | verifyCode => exact iff_of_true (shapes_unreadable (.inr rfl)) nofun
    | check => exact iff_of_false not_shapes_unreadable fun hread => hreadable (hread rfl)

/-- A submitted code that is too long, and a body that is declared as plain text. -/
theorem long_code_gets_verdict :
    let s : Service := ⟨true, "Mock", {}⟩
    let body := Text.utf8Bytes "\x7b\"email\":\"a\",\"code\":\"12345678901234567\"\x7d".toList
    let long : Request := ⟨"POST", "/api/v1/verify-code/check", some "application/json", body⟩
    let plain : Request := ⟨"POST", "/api/v1/verify-code", some "text/plain", body⟩
    let answer := Site.answer (.panicked none)
    let site : Site := { clock := 0 }
    Endpoint.check.Shapes
        (((App.ofService s 4096).respond "" default long).run answer site).result.body.render
      ∧ Endpoint.verifyCode.Shapes
        (((App.ofService s 4096).respond "" default plain).run answer site).result.body.render := by
  intro s body long plain answer site
  have hpayload : (App.ofService s 4096).payload? CheckRequest.decode long
      = some ⟨"a", "12345678901234567"⟩ := by decide +kernel
  have hreads : long.Reads 4096 .check "a" (some "12345678901234567") :=
    ⟨_, payload?_eq_some_iff.1 hpayload, rfl, rfl⟩
  constructor
  · exact (shapes_iff_readable s 4096 answer site "" default long .check (by decide)
      (by decide +kernel) rfl).2 fun _ => ⟨_, _, hreads⟩
  · exact (shapes_iff_readable s 4096 answer site "" default plain .verifyCode (by decide)
      (by decide +kernel) rfl).2 nofun

/-- The response to a check whose body breaks off has no verdict. -/
theorem malformed_check_lacks_verdict :
    let s : Service := ⟨true, "Mock", {}⟩
    let r : Request := ⟨"POST", "/api/v1/verify-code/check", some "application/json",
      Text.utf8Bytes "\x7b".toList⟩
    let run := ((App.ofService s 16384).respond "" default r).run (Site.answer (.panicked none))
      { clock := 0 }
    Endpoint.check ∈ endpoints s.variant ∧ Endpoint.check.route = (r.method, r.decodedPath)
      ∧ r.method = "POST"
      ∧ run.result.body.render = "\x7b\"email\":\"\",\"error\":4\x7d"
      ∧ ¬Endpoint.check.Shapes run.result.body.render := by
  intro s r run
  have hresult : run.result.body.render = "\x7b\"email\":\"\",\"error\":4\x7d" := by decide +kernel
  have hrender : unreadable.body.render = "\x7b\"email\":\"\",\"error\":4\x7d" := by decide +kernel
  refine ⟨by decide, by decide +kernel, rfl, hresult, ?_⟩
  rw [hresult, ← hrender]
  exact not_shapes_unreadable

end App

end Passcode.Http
