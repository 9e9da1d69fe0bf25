import Passcode.Layers.Path
import Passcode.Settings.EnvFile
import Passcode.Toml.Document

/-!
# Loading the settings of a deployment

Settings come from three layers. The variables of the process, completed by a `.env` file, give a
value for everything. The configuration file of the environment they name may change some of it.
Variables that start with `APP__` name single places and win over both.

The password of the relay is never written into a layer, so the one from the first layer is put
back where no other layer gives one. A lifetime beyond the allowed one is refused at the end.
-/

namespace Passcode.Settings

/-- The text files that a deployment finds beside it: the `.env` file and those in `config/`. -/
structure Files where
  envFile : Option String := none
  config : List (String × String) := []

/-- Where override variables come from, as messages say it. -/
def overrideOrigin : String := "the environment"

/-- What the names of override variables start with, in lower case. -/
def overrideMark : List Char := "app__".toList

/-- Replace each pair of underscores by a point, from the left. -/
def pathOfName : List Char → List Char
  | '_' :: '_' :: rest => '.' :: pathOfName rest
  | c :: rest => c :: pathOfName rest
  | [] => []

/-- The value of an override variable: a truth value, an integer or a float if its text reads as
one, otherwise the text. -/
def overrideLeaf (text : String) : Layers.Leaf :=
  let lower := Text.lowercase text
  if lower = "true" then .bool true
  else if lower = "false" then .bool false
  else
    match Text.readInt64 text with
    | some n => .int n.toInt
    | none =>
      match Number.Binary64.ofText? text.toList with
      | some x => .float x
      | none => .text text

/-- The place that a variable overrides, if it is an override. -/
def overridePath? (name : String) : Option String :=
  let lower := (Text.lowercase name).toList
  if overrideMark.isPrefixOf lower then
    some (String.ofList (pathOfName (lower.drop overrideMark.length)))
  else none

/-- The layer of the override variables. -/
def overrides (vars : Variables) : List (String × Layers.Value) :=
  vars.filterMap fun (name, text?) => do
    return (← overridePath? name, .leaf (some overrideOrigin) (overrideLeaf (← text?)))

/-- The path of a configuration file. -/
def configPath (file : String) : String := "config/" ++ file

/-- The layer of the configuration file of an environment; a file that is not there is empty. -/
def fileLayer (files : Files) (environment : Environment) :
    Except Layers.Fault (List (String × Layers.Value)) :=
  match files.config.lookup environment.configFile with
  | none => .ok []
  | some text =>
    match Toml.read (configPath environment.configFile) text with
    | some entries => .ok entries
    | none => .error .brokenFile

/-- The variables of a process that finds the given files. -/
def allVariables (vars : Variables) (files : Files) : Variables :=
  match files.envFile with
  | none => vars
  | some text => vars.withFile text

/-- The layers merged over the settings of the first. -/
def mergedLayers (vars : Variables) (files : Files) (base : App) :
    Except Layers.Fault Layers.Value := do
  let first ← Setting.toLayer base
  let file ← fileLayer files base.environment
  return ((Layers.Value.empty.overlay first.entries).overlay file).overlay (overrides vars)

/-- Put back the password of the first layer where no other layer gives one. -/
def withPassword (app : App) (password : String) : App :=
  if app.email.password = "" then { app with email := { app.email with password := password } }
  else app

/-- Load the settings of a deployment. -/
def load (vars : Variables) (files : Files) : Except Layers.Fault App := do
  let vars := allVariables vars files
  let base := vars.app
  let app : App ← Setting.ofLayer (← mergedLayers vars files base)
  let app := withPassword app base.email.password
  match app.verification.complaint? with
  | some text => throw (.message text)
  | none => return app

end Passcode.Settings
