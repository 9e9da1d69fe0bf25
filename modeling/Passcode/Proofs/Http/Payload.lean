import Passcode.Http.Payload
import Passcode.Proofs.Json.Text

/-!
# Payloads round trip

Every payload, request or response, is decoded from the text that is written for it, whatever
characters its texts have and whatever its outcome is. So no two payloads of a kind share a text.

## Main statements

* `decode_toJson` of each payload — what is written is read back
* `payloads_round_trip` — the texts of all six payloads
-/

namespace Passcode.Http

open Json (ReadsBack)

/-- An outcome is written as a small number. -/
theorem exact_outcome (o : Outcome) : (Json.Value.int o.code).Exact := by
  cases o <;> exact ⟨by decide, by decide⟩

/-! ## Requests -/

theorem CaptchaRequest.decode_toJson (r : CaptchaRequest) : decode r.toJson.tree = .ok r := rfl

theorem CaptchaRequest.readsBack : ReadsBack toJson decode :=
  .of_tree (fun _ => ⟨trivial, trivial⟩) decode_toJson

theorem VerifyCodeRequest.decode_toJson (r : VerifyCodeRequest) : decode r.toJson.tree = .ok r :=
  rfl

theorem VerifyCodeRequest.readsBack : ReadsBack toJson decode :=
  .of_tree (fun _ => ⟨trivial, trivial⟩) decode_toJson

theorem CheckRequest.decode_toJson (r : CheckRequest) : decode r.toJson.tree = .ok r := rfl

theorem CheckRequest.readsBack : ReadsBack toJson decode :=
  .of_tree (fun _ => ⟨trivial, trivial, trivial⟩) decode_toJson

/-! ## Responses -/

theorem CaptchaResponse.decode_toJson (r : CaptchaResponse) : decode r.toJson.tree = .ok r := by
  obtain ⟨email, outcome, captcha?⟩ := r
  cases outcome <;> cases captcha? <;> rfl

theorem CaptchaResponse.readsBack : ReadsBack toJson decode := by
  refine .of_tree (fun r => ?_) decode_toJson
  obtain ⟨email, outcome, captcha?⟩ := r
  cases captcha? with
  | none => exact ⟨trivial, exact_outcome outcome, trivial⟩
  | some c => exact ⟨trivial, exact_outcome outcome, trivial, trivial⟩

theorem VerifyCodeResponse.decode_toJson (r : VerifyCodeResponse) :
    decode r.toJson.tree = .ok r := by
  obtain ⟨email, outcome⟩ := r
  cases outcome <;> rfl

theorem VerifyCodeResponse.readsBack : ReadsBack toJson decode :=
  .of_tree (fun r => ⟨trivial, exact_outcome r.outcome, trivial⟩) decode_toJson

theorem CheckResponse.decode_toJson (r : CheckResponse) : decode r.toJson.tree = .ok r := by
  obtain ⟨email, outcome, valid⟩ := r
  cases outcome <;> rfl

theorem CheckResponse.readsBack : ReadsBack toJson decode :=
  .of_tree (fun r => ⟨trivial, exact_outcome r.outcome, trivial, trivial⟩) decode_toJson

/-! ## All payloads -/

/-- A payload is decoded from its text, and no other payload of its kind has that text. -/
structure RoundTrips {α : Type} (toJson : α → Json.Value) (decode : Json.Decoder α) : Prop where
  decodes : ∀ a, Json.decodeText decode (toJson a).render = .ok a
  distinct : ∀ a b, a ≠ b → (toJson a).render ≠ (toJson b).render

theorem RoundTrips.of_readsBack {α : Type} {toJson : α → Json.Value} {decode : Json.Decoder α}
    (h : ReadsBack toJson decode) : RoundTrips toJson decode :=
  ⟨h, fun _ _ hne htext => hne (h.injective htext)⟩

/-- **Payloads round trip.** Each of the six payloads is decoded from its text, which it shares with
no other payload of its kind. -/
theorem payloads_round_trip :
    RoundTrips CaptchaRequest.toJson CaptchaRequest.decode
      ∧ RoundTrips VerifyCodeRequest.toJson VerifyCodeRequest.decode
      ∧ RoundTrips CheckRequest.toJson CheckRequest.decode
      ∧ RoundTrips CaptchaResponse.toJson CaptchaResponse.decode
      ∧ RoundTrips VerifyCodeResponse.toJson VerifyCodeResponse.decode
      ∧ RoundTrips CheckResponse.toJson CheckResponse.decode :=
  ⟨.of_readsBack CaptchaRequest.readsBack, .of_readsBack VerifyCodeRequest.readsBack,
    .of_readsBack CheckRequest.readsBack, .of_readsBack CaptchaResponse.readsBack,
    .of_readsBack VerifyCodeResponse.readsBack, .of_readsBack CheckResponse.readsBack⟩

end Passcode.Http
