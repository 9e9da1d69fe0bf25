import Passcode.Json.Value
import Passcode.Log.Event

/-!
# Log lines

An event as a line of the log: in JSON, for machines, or as plain text, for people.
-/

namespace Passcode

/-- The value of a field in JSON. -/
def FieldValue.toJson : FieldValue → Json.Value
  | text s => .string s
  | int n => .int n
  | bool b => .bool b

/-- The value of a field in plain text. -/
def FieldValue.plain : FieldValue → String
  | text s => s
  | int n => toString n
  | bool b => if b then "true" else "false"

namespace Event

/-- The name of the level of an event, as log lines write it. -/
def levelMark (e : Event) : String := e.level.name.map Char.toUpper

/-- The line for an event at a time, in JSON. -/
def jsonLine (e : Event) (time : String) : String :=
  let message := ("message", Json.Value.string (e.message Redis.Fault.text))
  let carried := e.fields.map fun (name, value) => (name, value.toJson)
  (Json.Value.object [("timestamp", .string time), ("level", .string e.levelMark),
    ("fields", .object (message :: carried)), ("target", .string e.target)]).render

/-- The line for an event at a time, in plain text. -/
def plainLine (e : Event) (time : String) : String :=
  let carried := e.fields.map fun (name, value) => " " ++ name ++ "=" ++ value.plain
  time ++ " " ++ e.levelMark ++ " " ++ e.target ++ ": " ++ e.message Redis.Fault.text
    ++ String.join carried

end Event

end Passcode
