import Passcode.Service.Basic

/-!
# Requests to the service

The service as its callers see it: a code is issued to an identity, or a submitted code is checked.
Each request is served by a flow of its own.
-/

namespace Passcode

/-- A request to the service. An issuance comes with the code that will be drawn for it. -/
inductive ServiceRequest where
  | issue (identity : String) (code : Code)
  | check (identity submitted : String)
deriving Repr, DecidableEq

namespace ServiceRequest

/-- What a request comes to. -/
def Answer : ServiceRequest → Type
  | .issue .. => Issuance
  | .check .. => Except DomainFault CodeCheck

/-- The identity that a request is about. -/
def identity : ServiceRequest → String
  | .issue identity _ | .check identity _ => identity

end ServiceRequest

/-- The service as surroundings. -/
abbrev RequestInterface : Interface := ⟨ServiceRequest, ServiceRequest.Answer⟩

/-- Serve a request. -/
def Service.serve (s : Service) : (r : ServiceRequest) → Flow ServiceInterface r.Answer
  | .issue identity code => s.issue identity code
  | .check identity submitted => s.check identity submitted

end Passcode
