import Passcode.Settings.Schema
import Passcode.Text.Lowercase

/-!
# The environment of a deployment

A deployment runs in development, staging or production. The environment is named in several ways
by people and in one way by files, and it decides which configuration file is read.
-/

namespace Passcode

/-- Where a deployment runs. -/
inductive Environment where
  | development
  | staging
  | production
deriving Repr, DecidableEq

namespace Environment

/-- The name of an environment. -/
def name : Environment → String
  | development => "development"
  | staging => "staging"
  | production => "production"

instance : Settings.Choice Environment where
  title := "Environment"
  values := [development, staging, production]
  label := name

/-- The environment that a text names, without regard to case. -/
def parse (text : String) : Except String Environment :=
  match Text.lowercase text with
  | "development" | "dev" => .ok development
  | "staging" | "stage" | "test" => .ok staging
  | "production" | "prod" => .ok production
  | _ => .error s!"Invalid environment: {text}"

/-- Whether this is the production environment. -/
def isProduction (e : Environment) : Bool := e == production

/-- Whether this is the development environment. -/
def isDevelopment (e : Environment) : Bool := e == development

/-- The name of the configuration file of an environment. -/
def configFile (e : Environment) : String := e.name ++ ".toml"

end Environment

end Passcode
