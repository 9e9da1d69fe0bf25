import Passcode.Json.Decode
import Passcode.Json.Value
import Passcode.Service.Basic

/-!
# Payloads

The records that requests and responses carry, as JSON in both directions. An address has to have
between 1 and 254 characters and a submitted code between 1 and 16; what is longer or shorter is
refused before the service sees it. No rule says what an address looks like.
-/

namespace Passcode.Http

/-- The longest accepted address. -/
def maxEmailLength : Nat := 254

/-- The longest accepted submitted code. -/
def maxCodeLength : Nat := 16

/-- Whether a text has at least one and at most `most` characters. -/
def hasLength (most : Nat) (s : String) : Bool := 1 ≤ s.length && s.length ≤ most

/-- An outcome as a number. -/
def decodeOutcome : Json.Decoder Outcome := fun tree =>
  match Json.decodeInt "i32" (twoTo 31) tree with
  | .error f => .error f
  | .ok n =>
    match Outcome.ofCode? n with
    | some o => .ok o
    | none => .error (.data (Outcome.unknownMessage n))

/-- The field with the address. -/
def emailField {S : Type} (set : String → S → S) : Json.Field S :=
  ⟨"email", .required, fun tree => (Json.decodeString tree).map set⟩

/-- The field with the outcome. -/
def outcomeField {S : Type} (set : Outcome → S → S) : Json.Field S :=
  ⟨"error", .required, fun tree => (decodeOutcome tree).map set⟩

/-! ## Requests -/

/-- A request for a code that the caller gets. -/
structure CaptchaRequest where
  email : String := ""
deriving Repr, DecidableEq

namespace CaptchaRequest

/-- Reading a request. -/
def decode : Json.Decoder CaptchaRequest :=
  Json.decodeRecord "CaptchaRequest" [emailField fun x r => { r with email := x }] {}

/-- A request in JSON. -/
def toJson (r : CaptchaRequest) : Json.Value := .object [("email", .string r.email)]

/-- The names of the fields whose length is refused. -/
def invalidFields (r : CaptchaRequest) : List String :=
  if hasLength maxEmailLength r.email then [] else ["email"]

end CaptchaRequest

/-- A request for a code that is kept. -/
structure VerifyCodeRequest where
  email : String := ""
deriving Repr, DecidableEq

namespace VerifyCodeRequest

/-- Reading a request. -/
def decode : Json.Decoder VerifyCodeRequest :=
  Json.decodeRecord "VerifyCodeRequest" [emailField fun x r => { r with email := x }] {}

/-- A request in JSON. -/
def toJson (r : VerifyCodeRequest) : Json.Value := .object [("email", .string r.email)]

/-- The names of the fields whose length is refused. -/
def invalidFields (r : VerifyCodeRequest) : List String :=
  if hasLength maxEmailLength r.email then [] else ["email"]

end VerifyCodeRequest

/-- A request to check a submitted code. -/
structure CheckRequest where
  email : String := ""
  code : String := ""
deriving Repr, DecidableEq

namespace CheckRequest

/-- Reading a request. -/
def decode : Json.Decoder CheckRequest :=
  Json.decodeRecord "CheckCodeRequest" [
    emailField fun x r => { r with email := x },
    ⟨"code", .required, fun tree =>
      (Json.decodeString tree).map fun x r => { r with code := x }⟩] {}

/-- A request in JSON. -/
def toJson (r : CheckRequest) : Json.Value :=
  .object [("email", .string r.email), ("code", .string r.code)]

/-- The names of the fields whose length is refused. -/
def invalidFields (r : CheckRequest) : List String :=
  (if hasLength maxEmailLength r.email then [] else ["email"])
    ++ if hasLength maxCodeLength r.code then [] else ["code"]

end CheckRequest

/-! ## Responses -/

/-- The answer to a request for a code that the caller gets. -/
structure CaptchaResponse where
  email : String := ""
  outcome : Outcome := .success
  captcha? : Option String := none
deriving Repr, DecidableEq

namespace CaptchaResponse

/-- Reading a response. -/
def decode : Json.Decoder CaptchaResponse :=
  Json.decodeRecord "CaptchaResponse" [
    emailField fun x r => { r with email := x },
    outcomeField fun x r => { r with outcome := x },
    ⟨"captcha", .inArrays, fun tree =>
      (Json.decodeOption Json.decodeString tree).map fun x r => { r with captcha? := x }⟩] {}

/-- A response in JSON; a code that is not there is left out. -/
def toJson (r : CaptchaResponse) : Json.Value :=
  .object ([("email", .string r.email), ("error", .int r.outcome.code)]
    ++ (r.captcha?.map fun c => ("captcha", Json.Value.string c)).toList)

/-- The response to an issuance. -/
def ofIssuance (i : Issuance) : CaptchaResponse := ⟨i.identity, i.outcome, i.code?.map Code.text⟩

end CaptchaResponse

/-- The answer to a request for a code that is kept. -/
structure VerifyCodeResponse where
  email : String := ""
  outcome : Outcome := .success
deriving Repr, DecidableEq

namespace VerifyCodeResponse

/-- Reading a response. -/
def decode : Json.Decoder VerifyCodeResponse :=
  Json.decodeRecord "VerifyCodeResponse" [
    emailField fun x r => { r with email := x },
    outcomeField fun x r => { r with outcome := x }] {}

/-- A response in JSON. -/
def toJson (r : VerifyCodeResponse) : Json.Value :=
  .object [("email", .string r.email), ("error", .int r.outcome.code)]

/-- The response to an issuance. -/
def ofIssuance (i : Issuance) : VerifyCodeResponse := ⟨i.identity, i.outcome⟩

end VerifyCodeResponse

/-- The answer to a request to check a submitted code. -/
structure CheckResponse where
  email : String := ""
  outcome : Outcome := .success
  valid : Bool := false
deriving Repr, DecidableEq

namespace CheckResponse

/-- Reading a response. -/
def decode : Json.Decoder CheckResponse :=
  Json.decodeRecord "CheckCodeResponse" [
    emailField fun x r => { r with email := x },
    outcomeField fun x r => { r with outcome := x },
    ⟨"valid", .required, fun tree =>
      (Json.decodeBool tree).map fun x r => { r with valid := x }⟩] {}

/-- A response in JSON. -/
def toJson (r : CheckResponse) : Json.Value :=
  .object [("email", .string r.email), ("error", .int r.outcome.code), ("valid", .bool r.valid)]

/-- The response to a check that took place. -/
def ofCheck (email : String) (c : CodeCheck) : CheckResponse := ⟨email, .success, c.isAccepted⟩

/-- The response to a check that did not take place. -/
def failure (email : String) (outcome : Outcome) : CheckResponse := ⟨email, outcome, false⟩

end CheckResponse

/-- An issuance in JSON, with a place for the code whether there is one or not. -/
def issuanceJson (i : Issuance) : Json.Value :=
  .object [("identity", .string i.identity), ("error", .int i.outcome.code),
    ("code", Json.Value.ofOption (i.code?.map Code.text))]

end Passcode.Http
