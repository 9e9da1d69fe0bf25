import Passcode.Delivery.Identifier
import Passcode.Mail.Letter
import Passcode.Mask
import Passcode.Service.Calls

/-!
# The channel to a relay

Messages leave the program through a relay. The channel makes a letter of each and hands it over;
one call is one attempt. A message with an address that cannot be read fails before anything is
handed over.
-/

namespace Passcode

/-- A relay: where it is, and whether the connection is secured after it is made. -/
structure Relay where
  host : String
  port : UInt16
  starttls : Bool
deriving Repr, DecidableEq

/-- What the channel asks for: a new postmark, and to hand a letter over. -/
inductive RelayCall where
  | postmark
  | transfer (letter : Mail.Letter)

/-- Handing over succeeds, or fails with a reason. -/
def RelayCall.Answer : RelayCall → Type
  | .postmark => Mail.Postmark
  | .transfer _ => Except String Unit

/-- A relay as surroundings. -/
abbrev RelayInterface : Interface := ⟨RelayCall, RelayCall.Answer⟩

namespace Relay

/-- The name of the channel. -/
def provider : String := "SMTP"

/-- The relay of the settings. -/
def ofSettings (s : Settings.Email) : Relay := ⟨s.smtpHost, s.smtpPort, s.starttls⟩

/-- The event of a channel that is set up. -/
def configured (r : Relay) : Event := .relayConfigured r.host r.port.toNat r.starttls

/-- Log a failed delivery. -/
def fail (m : Message) (reason : String) : Flow RelayInterface Delivery :=
  .log (.relayFailed (Mask.identity m.recipient)) <| .done (.failed reason)

/-- Hand over the letter of a message. -/
def deliver (m : Message) (p : Mail.Postmark) : Flow RelayInterface Delivery :=
  match Mail.Letter.ofMessage m p with
  | .error fault => fail m fault.text
  | .ok letter =>
    .ask (.transfer letter) fun
      | .ok () => .log (.relaySent (Mask.identity m.recipient)) <| .done (.sent p.id)
      | .error reason => fail m (Mail.faultMark ++ "Failed to send email: " ++ reason)

/-- Send a message. -/
def send (r : Relay) (m : Message) : Flow RelayInterface Delivery :=
  .log (.relaySending (Mask.identity m.recipient) r.host) <| .ask .postmark (deliver m)

end Relay

/-- Surroundings in which no relay can be reached. Their state is the number of postmarks given. -/
def unreachable : Flow.Surroundings RelayInterface Nat
  | .postmark, n => ⟨⟨identifierOfDraw n, "", ""⟩, [], n + 1⟩
  | .transfer _, n => ⟨.error "Connection error: Network is unreachable (os error 101)", [], n⟩

end Passcode
