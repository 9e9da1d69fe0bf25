import Passcode.Log.Filter
import Passcode.Settings.Variables

/-!
# Starting the log

The filter of the log comes from the variable `RUST_LOG` if that holds one, and from the settings
otherwise. A process has one log; it cannot be started twice.
-/

namespace Passcode

/-- Why the log could not be started. -/
inductive LogFault where
  /-- The level in the settings is no filter. -/
  | filter (level : String)
  /-- The log of the process was started before. -/
  | taken
deriving Repr, DecidableEq

/-- The text of a fault. -/
def LogFault.text : LogFault → String
  | filter level => "Invalid log filter '" ++ level ++ "'"
  | taken =>
    "Failed to install tracing subscriber: a global default trace dispatcher has already been set"

/-- The variable that may hold a filter. -/
def filterVariable : String := "RUST_LOG"

/-- The filter of the log. -/
def LogFilter.choose (vars : Settings.Variables) (s : Settings.Logging) :
    Except LogFault LogFilter :=
  match (vars.text? filterVariable).bind LogFilter.ofText? with
  | some filter => .ok filter
  | none =>
    match LogFilter.ofText? s.level with
    | some filter => .ok filter
    | none => .error (.filter s.level)

/-- Start the log of a process; `isTaken` says whether it was started before. -/
def startLog (isTaken : Bool) (vars : Settings.Variables) (s : Settings.Logging) :
    Except LogFault LogFilter := do
  let filter ← LogFilter.choose vars s
  if isTaken then throw .taken else return filter

end Passcode
