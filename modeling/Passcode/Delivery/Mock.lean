import Passcode.Keyed
import Passcode.Mask
import Passcode.Service.Calls

/-!
# The channel that only logs

For development and tests there is a channel that accepts every message and sends none. It counts
the messages, keeps the last one to each recipient, and can print them. While a failure is
simulated it refuses every message and keeps its books as they are.
-/

namespace Passcode

/-- The channel that only logs. -/
structure MockChannel where
  prints : Bool := true
  failing : Bool := false
  count : Nat := 0
  last : Keyed Message := {}
deriving Repr, DecidableEq

/-- The end of a call of the channel: what became of the message, the events, the text printed, and
the channel afterwards. -/
structure Posting where
  delivery : Delivery
  events : List Event
  printed : String
  channel : MockChannel

namespace MockChannel

/-- The name of the channel. -/
def provider : String := "Mock"

/-- The line between the parts of a printed message. -/
def rule : String := String.ofList (List.replicate 60 '=')

/-- A message as the channel prints it. -/
def printout (count : Nat) (id : String) (m : Message) : String :=
  "\n" ++ rule ++ "\n"
    ++ s!"MOCK EMAIL CHANNEL - MESSAGE #{count}\n"
    ++ rule ++ "\n"
    ++ "From: " ++ m.sender ++ "\n"
    ++ "To: " ++ m.recipient ++ "\n"
    ++ "Subject: " ++ m.subject ++ "\n"
    ++ "Message ID: " ++ id ++ "\n"
    ++ m.text ++ "\n"
    ++ rule ++ "\n\n"

/-- Take a message, which gets the given id. -/
def send (c : MockChannel) (id : String) (m : Message) : Posting :=
  if c.failing then
    ⟨.failed "Simulated email delivery failure", [.mockRefused (Mask.identity m.recipient)], "", c⟩
  else
    let count := c.count + 1
    ⟨.sent id, [.mockSent (Mask.identity m.recipient)],
      if c.prints then printout count id m else "",
      { c with count := count, last := c.last.insert m.recipient m }⟩

/-- The last message taken for a recipient. -/
def lastFor? (c : MockChannel) (recipient : String) : Option Message :=
  c.last.find? recipient

/-- Start counting anew. -/
def resetCount (c : MockChannel) : MockChannel := { c with count := 0 }

/-- Start or end the simulation of a failure. -/
def setFailing (c : MockChannel) (on : Bool) : MockChannel := { c with failing := on }

end MockChannel

end Passcode
