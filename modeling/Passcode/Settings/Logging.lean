import Passcode.Settings.Environment

/-!
# Logging settings

How log lines are filtered and laid out. The level has to be given; the defaults of a deployment
depend on its environment.
-/

namespace Passcode.Settings

/-- The layout of log lines. -/
inductive LogFormat where
  | json
  | pretty
  | compact
deriving Repr, DecidableEq

/-- The name of a layout. -/
def LogFormat.name : LogFormat → String
  | json => "json"
  | pretty => "pretty"
  | compact => "compact"

instance : Choice LogFormat where
  title := "LogFormat"
  values := [.json, .pretty, .compact]
  label := LogFormat.name

/-- The settings of the log. -/
structure Logging where
  /-- A level, or directives of the log filter. -/
  level : String := "info"
  format : LogFormat := .pretty
  colored : Bool := true
  /-- Whether log lines name the place in the program that wrote them. -/
  sourceLocation : Bool := false
deriving Repr, DecidableEq

instance : Schema Logging where
  title := "LoggingConfig"
  fields := [
    .mandatory "level" Logging.level fun x s => { s with level := x },
    .optional "format" Logging.format fun x s => { s with format := x },
    .optional "colored" Logging.colored fun x s => { s with colored := x },
    .optional "source_location" Logging.sourceLocation fun x s => { s with sourceLocation := x }]
  start := {}

/-- The logging settings of an environment. -/
def Logging.ofEnvironment : Environment → Logging
  | .development => { level := "debug", format := .pretty, colored := true, sourceLocation := true }
  | .staging | .production =>
    { level := "info", format := .json, colored := false, sourceLocation := false }

end Passcode.Settings
