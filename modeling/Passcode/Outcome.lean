/-!
# Outcomes

The result of a request as its caller sees it, and the faults inside the program that lead to one.
The numbers of the outcomes are part of the interface to callers and never change.
-/

namespace Passcode

/-- How a request for a code ended. -/
inductive Outcome where
  | success
  | storeError
  | deliveryError
  | exception
  | invalidArgument
deriving Repr, DecidableEq

namespace Outcome

/-- The number of an outcome. -/
def code : Outcome → Int
  | success => 0
  | storeError => 1
  | deliveryError => 2
  | exception => 3
  | invalidArgument => 4

/-- The name of an outcome. -/
def name : Outcome → String
  | success => "Success"
  | storeError => "StoreError"
  | deliveryError => "DeliveryError"
  | exception => "Exception"
  | invalidArgument => "InvalidArgument"

/-- The outcome with a number. -/
def ofCode? : Int → Option Outcome
  | 0 => some success
  | 1 => some storeError
  | 2 => some deliveryError
  | 3 => some exception
  | 4 => some invalidArgument
  | _ => none

/-- The message about a number that no outcome has. -/
def unknownMessage (n : Int) : String := s!"Unknown error kind: {n}"

/-- Whether the request succeeded. -/
def isSuccess (o : Outcome) : Bool := o == success

@[simp] theorem ofCode?_code (o : Outcome) : ofCode? o.code = some o := by cases o <;> rfl

end Outcome

/-- A fault inside the program. -/
inductive DomainFault where
  | validation (message : String)
  | storeUnavailable (message : String)
  | storeNotConfigured
  | internal (message : String)
deriving Repr, DecidableEq

namespace DomainFault

/-- The text of a fault. -/
def message : DomainFault → String
  | validation m => "Validation error: " ++ m
  | storeUnavailable m => "Code store unavailable: " ++ m
  | storeNotConfigured => "No code store is configured for this deployment"
  | internal m => "Internal error: " ++ m

/-- The outcome reported for a fault. -/
def outcome : DomainFault → Outcome
  | validation _ => .invalidArgument
  | storeUnavailable _ => .storeError
  | storeNotConfigured | internal _ => .exception

end DomainFault

end Passcode
