import Passcode.Settings.Schema
import Passcode.Text.Lowercase

/-!
# Mail settings

How codes are delivered. The password of the relay is read and never written.
-/

namespace Passcode.Settings

/-- What delivers a message: a relay, or a stand-in that only logs it. -/
inductive Provider where
  | smtp
  | mock
deriving Repr, DecidableEq

namespace Provider

/-- The name of a provider. -/
def name : Provider → String
  | smtp => "smtp"
  | mock => "mock"

instance : Choice Provider where
  title := "EmailProvider"
  values := [smtp, mock]
  label := name

/-- The provider that a text names, without regard to case. -/
def parse (text : String) : Except String Provider :=
  match Text.lowercase text with
  | "smtp" => .ok smtp
  | "mock" => .ok mock
  | _ => .error s!"Invalid email provider: {text}"

end Provider

/-- The settings of mail delivery. -/
structure Email where
  provider : Provider := .mock
  smtpHost : String := "localhost"
  smtpPort : UInt16 := 465
  username : String := ""
  password : String := ""
  fromEmail : String := "no-reply@localhost"
  fromName : String := "VeriMail"
  /-- Whether the connection is secured after it is made, and not from its start. -/
  starttls : Bool := false
  timeoutSecs : UInt64 := 30
deriving Repr, DecidableEq

instance : Schema Email where
  title := "EmailConfig"
  fields := [
    .optional "provider" Email.provider fun x s => { s with provider := x },
    .optional "smtp_host" Email.smtpHost fun x s => { s with smtpHost := x },
    .optional "smtp_port" Email.smtpPort fun x s => { s with smtpPort := x },
    .optional "username" Email.username fun x s => { s with username := x },
    .hidden "password" Email.password fun x s => { s with password := x },
    .optional "from_email" Email.fromEmail fun x s => { s with fromEmail := x },
    .optional "from_name" Email.fromName fun x s => { s with fromName := x },
    .optional "starttls" Email.starttls fun x s => { s with starttls := x },
    .optional "timeout_secs" Email.timeoutSecs fun x s => { s with timeoutSecs := x }]
  start := {}

/-- The mailbox that messages come from. -/
def Email.sender (s : Email) : String := s.fromName ++ " <" ++ s.fromEmail ++ ">"

end Passcode.Settings
