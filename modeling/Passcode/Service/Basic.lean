import Passcode.Mask
import Passcode.Outcome
import Passcode.Service.Calls

/-!
# The service of verification codes

The service issues codes and checks them. Without a store it hands an issued code back to the
caller; with a store it keeps the code under the key of the identity, never hands it back, and can
check a submitted code against it later.

Issuing stores first and sends second. A code that cannot be stored is not sent, a code that
cannot be sent stays stored, and a breakdown of the surroundings is an outcome like any other.

A check reads the record and then consumes it in one step that compares again, so a code is
accepted at most once, and one that was replaced after it was read is not accepted at all.
-/

namespace Passcode

/-- How a service names records and words messages. -/
structure ServiceConfig where
  codePrefix : String := Settings.defaultPrefix
  /-- Seconds a code is kept; zero or less for codes that do not expire. -/
  codeLifetime : Int := 600
  template : Template := {}
deriving Repr, DecidableEq

namespace ServiceConfig

/-- The configuration that settings and a sender give. -/
def ofSettings (s : Settings.Verification) (sender : String) : ServiceConfig where
  codePrefix := s.codePrefix
  codeLifetime := s.codeLifetime.toInt
  template := {
    sender := sender
    subject := s.subject
    productName := s.productName
    lifetime := s.codeLifetime.toInt }

/-- The key of the record of an identity. -/
def keyFor (c : ServiceConfig) (identity : String) : String := c.codePrefix ++ identity

end ServiceConfig

/-- A service: whether it has a store, the name of its channel, and its configuration. -/
structure Service where
  hasStore : Bool
  provider : String
  config : ServiceConfig
deriving Repr, DecidableEq

/-- The result of issuing a code. -/
structure Issuance where
  identity : String
  outcome : Outcome
  /-- The code, where the caller gets it. -/
  code? : Option Code
deriving Repr, DecidableEq

/-- The result of checking a submitted code. -/
inductive CodeCheck where
  | accepted
  | mismatch
  | notFound
deriving Repr, DecidableEq

namespace CodeCheck

/-- The name of a result. -/
def name : CodeCheck → String
  | accepted => "accepted"
  | mismatch => "mismatch"
  | notFound => "not_found"

/-- Whether the code was accepted. -/
def isAccepted (c : CodeCheck) : Bool := c == accepted

end CodeCheck

namespace Service

/-- The variant that a service implements. -/
def variant (s : Service) : Variant := if s.hasStore then .validating else .generationOnly

/-- The reason that the log gives for a breakdown. -/
def panicReason (reason : Option String) : String := reason.getD "unknown panic"

/-- A failed issuance. -/
def failure (identity : String) (outcome : Outcome) : Issuance := ⟨identity, outcome, none⟩

/-- The end of an issuance during which the surroundings broke down. -/
def afterPanic (identity : String) (reason : Option String) : Flow ServiceInterface Issuance :=
  .log (.issuancePanicked (Mask.identity identity) (panicReason reason)) <|
    .done (failure identity .exception)

/-- Send the message with a code. -/
def deliver (s : Service) (identity : String) (code : Code) : Flow ServiceInterface Issuance :=
  .ask (.send (s.config.template.render identity code)) fun
    | .done (.sent _) =>
      .log (.codeDelivered (Mask.identity identity) s.provider) <|
        .done ⟨identity, .success, if s.hasStore then none else some code⟩
    | .done (.failed _) =>
      .log (.codeNotDelivered (Mask.identity identity) s.provider) <|
        .done (failure identity .deliveryError)
    | .panicked reason => afterPanic identity reason

/-- Issue a code to an identity. -/
def issue (s : Service) (identity : String) (code : Code) : Flow ServiceInterface Issuance :=
  .log (.codeGenerated (Mask.identity identity) s.variant) <|
    if s.hasStore then
      .ask (.set (s.config.keyFor identity) code.text s.config.codeLifetime) fun
        | .done true => s.deliver identity code
        | .done false =>
          .log (.codeNotStored (Mask.identity identity)) <|
            .done (failure identity .storeError)
        | .panicked reason => afterPanic identity reason
    else s.deliver identity code

/-- Consume the record that was read as `stored`, which the submitted code equals. -/
def consume (s : Service) (identity stored : String) :
    Flow ServiceInterface (Except DomainFault CodeCheck) :=
  .ask (.consume (s.config.keyFor identity) stored) fun
    | true => .log (.codeAccepted (Mask.identity identity)) <| .done (.ok .accepted)
    | false => .log (.codeAlreadyConsumed (Mask.identity identity)) <| .done (.ok .notFound)

/-- Check a submitted code. -/
def check (s : Service) (identity submitted : String) :
    Flow ServiceInterface (Except DomainFault CodeCheck) :=
  if s.hasStore then
    .ask (.contains (s.config.keyFor identity)) fun
      | false => .log (.noLiveCode (Mask.identity identity)) <| .done (.ok .notFound)
      | true =>
        .ask (.get (s.config.keyFor identity)) fun
          | none => .done (.ok .notFound)
          | some stored =>
            if stored = submitted then s.consume identity stored
            else .log (.codeMismatch (Mask.identity identity)) <| .done (.ok .mismatch)
  else .done (.error .storeNotConfigured)

end Service

end Passcode
