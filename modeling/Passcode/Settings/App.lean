import Passcode.Settings.Cache
import Passcode.Settings.Email
import Passcode.Settings.Logging
import Passcode.Settings.Server
import Passcode.Settings.Verification

/-!
# The settings of a deployment

All groups of settings together. Each group may be left out.
-/

namespace Passcode.Settings

/-- The settings of a deployment. -/
structure App where
  environment : Environment := .development
  server : Server := {}
  cache : Cache := {}
  email : Email := {}
  verification : Verification := {}
  logging : Logging := {}
deriving Repr, DecidableEq

instance : Schema App where
  title := "AppConfig"
  fields := [
    .optional "environment" App.environment fun x s => { s with environment := x },
    .optional "server" App.server fun x s => { s with server := x },
    .optional "cache" App.cache fun x s => { s with cache := x },
    .optional "email" App.email fun x s => { s with email := x },
    .optional "verification" App.verification fun x s => { s with verification := x },
    .optional "logging" App.logging fun x s => { s with logging := x }]
  start := {}

namespace App

/-- The settings of a deployment where nothing is set. -/
def default : App := { logging := Logging.ofEnvironment .development }

/-- Whether the deployment keeps the codes it issues. -/
def requiresStore (s : App) : Bool := s.verification.variant.requiresStore

end App

end Passcode.Settings
