import Passcode.Mail.Transfer
import Passcode.Message

/-!
# Letters

A letter is a message as a relay takes it: the addresses of both ends, and a text of headers and
body. A message without marked-up body has a single part; one with it has both bodies as
alternatives, between boundaries.
-/

namespace Passcode.Mail

/-- A letter. -/
structure Letter where
  sender : Address
  recipient : Address
  text : String
deriving Repr, DecidableEq

/-- Why a message cannot become a letter. -/
inductive LetterFault where
  | sender (fault : AddressFault)
  | recipient (fault : AddressFault)
  | unreadableSender
  | unreadableRecipient
deriving Repr, DecidableEq

/-- What the text of every fault of mail delivery starts with. -/
def faultMark : String := "Email error: "

/-- The text of a fault of an address that cannot be read again. -/
def unreadableText (which : String) : String :=
  faultMark ++ "Failed to build message: missing " ++ which ++ " address, invalid envelope"

/-- The text of a fault. -/
def LetterFault.text : LetterFault → String
  | sender fault => faultMark ++ "Invalid from address: " ++ fault.text
  | recipient fault => faultMark ++ "Invalid to address: " ++ fault.text
  | unreadableSender => unreadableText "source"
  | unreadableRecipient => unreadableText "destination"

/-- What makes one letter differ from another with the same message. -/
structure Postmark where
  id : String
  date : String
  boundary : String
deriving Repr, DecidableEq

/-- A header with a fixed text. -/
def header (name value : String) : String := name ++ ": " ++ value ++ lineEnd

/-- A part of a letter: its headers and its body. -/
def part (mediaType body : String) : String :=
  let transfer := Transfer.choose body.toList
  header "Content-Type" (mediaType ++ "; charset=utf-8")
    ++ header "Content-Transfer-Encoding" transfer.name
    ++ lineEnd ++ transfer.encode body.toList ++ lineEnd

/-- The parts of a message. -/
def parts (m : Message) (boundary : String) : String :=
  let text := part "text/plain" m.text
  match m.html? with
  | none => text
  | some html =>
    let mark := "--" ++ boundary
    let mediaType := "multipart/alternative;" ++ lineEnd ++ " boundary=\"" ++ boundary ++ "\""
    header "Content-Type" mediaType ++ lineEnd
      ++ mark ++ lineEnd ++ text ++ mark ++ lineEnd ++ part "text/html" html
      ++ mark ++ "--" ++ lineEnd

/-- The identifier of a letter as its header gives it. -/
def letterId (id : String) : String := "<" ++ id ++ "@verimail>"

/-- The address to which a letter with a mailbox goes: its own address, read again as its header
gives it. A user that is quoted loses its quotes. -/
def Mailbox.envelope? (m : Mailbox) : Option Address :=
  ((Mailbox.ofText m.address.text).map (·.address)).toOption

/-- What an option holds, or a fault. -/
def orFault (fault : LetterFault) (a? : Option Address) : Except LetterFault Address :=
  match a? with
  | some a => .ok a
  | none => .error fault

/-- The letter of a message. -/
def Letter.ofMessage (m : Message) (p : Postmark) : Except LetterFault Letter := do
  let sender ← (Mailbox.ofText m.sender).mapError .sender
  let recipient ← (Mailbox.ofText m.recipient).mapError .recipient
  let text :=
    ((HeaderWriter.ofName "From").putMailbox sender).finish
      ++ ((HeaderWriter.ofName "To").putMailbox recipient).finish
      ++ ((HeaderWriter.ofName "Subject").putText m.subject.toList).finish
      ++ ((HeaderWriter.ofName "Message-ID").putText (letterId p.id).toList).finish
      ++ header "MIME-Version" "1.0"
      ++ header "Date" p.date
      ++ parts m p.boundary
  return ⟨← orFault .unreadableSender sender.envelope?,
    ← orFault .unreadableRecipient recipient.envelope?, text⟩

end Passcode.Mail
