import Passcode.Settings.App
import Passcode.Text.Numeral

/-!
# Settings from variables

The plain variables of a process. A variable that is unset, or whose value is no text, or whose
text does not name a value of the setting, leaves the default in place. The environment is named by
the first of three variables that has a text, and an unknown name there means development.
-/

namespace Passcode.Settings

/-- The variables of a process. A value that is no text is `none`. -/
abbrev Variables := List (String × Option String)

/-- Read an unsigned number of 16 bits. -/
def port? (s : String) : Option UInt16 := (Text.readBelow (twoTo 16) s).map UInt16.ofNat

/-- Read a size. -/
def size? (s : String) : Option Size := (Text.readBelow (twoTo 64) s).map Size.ofNat

namespace Variables

/-- The text of a variable. -/
def text? (vars : Variables) (name : String) : Option String := (vars.lookup name).join

/-- The value that a variable names, or a default. -/
def read {α : Type} (vars : Variables) (name : String) (reading : String → Option α)
    (default : α) : α :=
  ((vars.text? name).bind reading).getD default

/-- The environment that the variables name. -/
def environment (vars : Variables) : Environment :=
  let named := (vars.text? "ENVIRONMENT").or ((vars.text? "ENV").or (vars.text? "RUST_ENV"))
  (Environment.parse (named.getD "development")).toOption.getD .development

/-- The server settings that the variables name. -/
def server (vars : Variables) : Server :=
  let defaults : Server := {}
  { defaults with
    host := vars.read "SERVER_HOST" some defaults.host
    port := vars.read "SERVER_PORT" port? defaults.port
    workers := vars.read "SERVER_WORKERS" size? defaults.workers }

/-- The settings of the code store that the variables name. -/
def cache (vars : Variables) : Cache :=
  let defaults : Cache := {}
  { defaults with
    url := vars.read "REDIS_URL" some defaults.url
    useMemory := vars.read "CACHE_BACKEND"
      (fun backend => some (Text.eqIgnoringAsciiCase backend "memory")) false }

/-- The mail settings that the variables name. -/
def email (vars : Variables) : Email :=
  let defaults : Email := {}
  { defaults with
    provider := vars.read "EMAIL_PROVIDER" (fun s => (Provider.parse s).toOption) defaults.provider
    smtpHost := vars.read "SMTP_HOST" some defaults.smtpHost
    smtpPort := vars.read "SMTP_PORT" port? defaults.smtpPort
    username := vars.read "SMTP_USERNAME" some defaults.username
    password := vars.read "SMTP_PASSWORD" some defaults.password
    fromEmail := vars.read "EMAIL_FROM" some defaults.fromEmail
    fromName := vars.read "EMAIL_FROM_NAME" some defaults.fromName
    starttls := vars.read "SMTP_STARTTLS"
      (fun s => some (s == "1" || Text.eqIgnoringAsciiCase s "true")) defaults.starttls }

/-- The settings of the issuance of codes that the variables name. -/
def verification (vars : Variables) : Verification :=
  let defaults : Verification := {}
  { defaults with
    variant := vars.read "VERIFY_VARIANT" (fun s => (Variant.parse s).toOption) defaults.variant
    codePrefix := vars.read "VERIFY_CODE_PREFIX" some defaults.codePrefix
    codeLifetime := vars.read "VERIFY_CODE_TTL_SECONDS" Text.readInt64 defaults.codeLifetime
    productName := vars.read "VERIFY_PRODUCT_NAME" some defaults.productName
    subject := vars.read "VERIFY_SUBJECT" some defaults.subject }

/-- The logging settings that the variables name; the environment gives the defaults. -/
def logging (vars : Variables) : Logging :=
  let defaults := Logging.ofEnvironment vars.environment
  { defaults with level := vars.read "LOG_LEVEL" some defaults.level }

/-- The settings of a deployment that the variables name. -/
def app (vars : Variables) : App where
  environment := vars.environment
  server := vars.server
  cache := vars.cache
  email := vars.email
  verification := vars.verification
  logging := vars.logging

end Variables

end Passcode.Settings
