import Passcode.Settings.Schema
import Passcode.Text.Lowercase

/-!
# Settings of the issuance of codes

Which of the two services is deployed, and how long and under which keys codes are kept. A
lifetime of zero or less means that codes do not expire; one beyond thirty days is refused.
-/

namespace Passcode

/-- The deployed service: one that only issues codes, or one that also keeps and checks them. -/
inductive Variant where
  | generationOnly
  | validating
deriving Repr, DecidableEq

namespace Variant

/-- The name of a variant. -/
def name : Variant → String
  | generationOnly => "generation_only"
  | validating => "validating"

instance : Settings.Choice Variant where
  title := "ServiceVariant"
  values := [generationOnly, validating]
  label := name

/-- The variant that a text names, without regard to case. -/
def parse (text : String) : Except String Variant :=
  match Text.lowercase text with
  | "generation_only" | "generation-only" | "captcha" => .ok generationOnly
  | "validating" | "verify" => .ok validating
  | _ => .error s!"Invalid service variant: {text}"

/-- Whether a variant keeps the codes it issues. -/
def requiresStore (v : Variant) : Bool := v == validating

end Variant

namespace Settings

/-- The prefix of the keys of stored codes. -/
def defaultPrefix : String := "verify_code_"

/-- The seconds a code stays valid unless set otherwise: ten minutes. -/
def defaultLifetime : Int64 := 600

/-- The longest lifetime of a code in seconds: thirty days. -/
def maxLifetime : Int64 := 2592000

/-- The settings of the issuance of codes. -/
structure Verification where
  variant : Variant := .validating
  codePrefix : String := defaultPrefix
  codeLifetime : Int64 := defaultLifetime
  productName : String := "VeriMail"
  subject : String := "Your verification code"
deriving Repr, DecidableEq

instance : Schema Verification where
  title := "VerificationConfig"
  fields := [
    .optional "variant" Verification.variant fun x s => { s with variant := x },
    .optional "code_prefix" Verification.codePrefix fun x s => { s with codePrefix := x },
    .optional "code_ttl_seconds" Verification.codeLifetime fun x s => { s with codeLifetime := x },
    .optional "product_name" Verification.productName fun x s => { s with productName := x },
    .optional "subject" Verification.subject fun x s => { s with subject := x }]
  start := {}

namespace Verification

/-- The settings of a service that only issues codes. -/
def generationOnly : Verification := { variant := .generationOnly }

/-- The complaint about a lifetime that is too long, if it is. -/
def complaint? (s : Verification) : Option String :=
  if s.codeLifetime > maxLifetime then
    some s!"code_ttl_seconds {s.codeLifetime.toInt} exceeds the maximum of {maxLifetime.toInt}"
  else none

end Verification

end Settings

end Passcode
