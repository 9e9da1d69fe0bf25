import Passcode.Code
import Passcode.Number.Power
import Passcode.Settings.Verification

/-!
# Messages

A code travels to its subject in a message with a plain body and a marked-up one. Both name the
product, the code and how long the code is valid, in whole minutes rounded up.
-/

namespace Passcode

/-- A message ready for delivery. -/
structure Message where
  recipient : String
  /-- The mailbox the message comes from. -/
  sender : String
  subject : String
  text : String
  html? : Option String
deriving Repr, DecidableEq

/-- How messages about codes are worded. -/
structure Template where
  sender : String := "VeriMail <no-reply@localhost>"
  subject : String := "Your verification code"
  productName : String := "VeriMail"
  /-- Seconds the code is announced to be valid; zero or less for a code that does not expire. -/
  lifetime : Int := 600
deriving Repr, DecidableEq

namespace Template

/-- The largest number of seconds that can be counted. -/
def maxSeconds : Int := maxSigned 64

/-- The announced validity in whole minutes, rounded up. -/
def minutes? (t : Template) : Option Int :=
  if t.lifetime > 0 then some (min (t.lifetime + 59) maxSeconds / 60) else none

/-- The sentence about the validity of a code. -/
def validity (t : Template) : String :=
  match t.minutes? with
  | some 1 => "It is valid for 1 minute."
  | some m => s!"It is valid for {m} minutes."
  | none => "It does not expire until used."

/-- The message that brings a code to an identity. -/
def render (t : Template) (identity : String) (code : Code) : Message where
  recipient := identity
  sender := t.sender
  subject := t.subject
  text := "Your " ++ t.productName ++ " verification code is " ++ code.text ++ ". " ++ t.validity
  html? := some ("<p>Your " ++ t.productName ++ " verification code is <strong>" ++ code.text
    ++ "</strong>. " ++ t.validity ++ "</p>")

end Template

end Passcode
