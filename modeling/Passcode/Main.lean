import Passcode.Log.Line
import Passcode.Program.Start
import Passcode.Program.World
import Passcode.Text.Timestamp

/-!
# The command line

The program takes its settings from the variables of the process, from `.env` and from `config/`,
and then answers requests from standard input, one a line: a method, a path and, after a further
blank, a body in JSON. Each response is a line with a status and a body. Log lines go to standard
error. There is no network here, so neither a server of Redis nor a relay can be reached.
-/

namespace Passcode.Main

/-- The text of a file, if it can be read. -/
def readText? (path : String) : IO (Option String) := do
  try
    return some (← IO.FS.readFile path)
  catch _ => return none

/-- The variables of the process. -/
def readVariables : IO Settings.Variables := do
  let bytes ← try IO.FS.readBinFile "/proc/self/environ" catch _ => pure ByteArray.empty
  let entries := bytes.toList.map UInt8.toNat |>.splitOn 0
  return entries.filterMap fun entry =>
    let name := Text.textOfBytes? (entry.takeWhile (· ≠ '='.toNat))
    name.map fun name => (name, Text.textOfBytes? ((entry.dropWhile (· ≠ '='.toNat)).drop 1))

/-- The files of a deployment in the current directory. -/
def readFiles : IO Settings.Files := do
  let names := ([.development, .staging, .production] : List Environment).map (·.configFile)
  let config ← names.filterMapM fun name => do
    return (← readText? (Settings.configPath name)).map fun text => (name, text)
  return { envFile := ← readText? ".env", config := config }

/-- The decimal number at the start of a text, without regard to a point in it. -/
def leadingNumber (s : String) : Nat :=
  Text.digitsValue 0 ((s.toList.takeWhile fun c => c.isDigit || c = '.').filter (· ≠ '.'))

/-- The time in milliseconds since the start of 1970: when the machine was started, and how long it
has run since then. -/
def now : IO Nat := do
  let uptime := leadingNumber ((← readText? "/proc/uptime").getD "")
  let lines := Text.splitOn '\n' ((← readText? "/proc/stat").getD "").toList
  let start := (lines.filter ("btime ".toList.isPrefixOf ·)).head?.map fun line =>
    leadingNumber (String.ofList (line.drop 6))
  return start.getD 0 * 1000 + uptime * 10

/-- Write the events that reach the log. -/
def writeLog (view : LogView) (events : List Event) (millis : Nat) : IO Unit := do
  let time := Text.timestamp millis
  for e in events do
    if view.filter.admits e then
      IO.eprintln (if view.layout.format = .json then e.jsonLine time else e.plainLine time)

/-- The request on a line. -/
def readRequest (line : String) : Http.Request :=
  let words := line.toList
  let method := words.takeWhile (· ≠ ' ')
  let rest := (words.dropWhile (· ≠ ' ')).drop 1
  let path := rest.takeWhile (· ≠ ' ')
  let body := (rest.dropWhile (· ≠ ' ')).drop 1
  ⟨String.ofList method, String.ofList path, some Http.Response.contentType, Text.utf8Bytes body⟩

/-- Answer requests until the input ends. -/
partial def serve (listener : Listener) (view : LogView) (world : World) : IO Unit := do
  let line ← (← IO.getStdin).getLine
  if line = "" then return
  let millis ← now
  let moved := world.advanceTo millis
  let code := Code.ofDraw (← IO.rand 0 (Code.count - 1))
  let request := readRequest (String.ofList (line.toList.filter (· ≠ '\n')))
  let flow := listener.app.respond (Text.timestamp millis) code request
  let run := (listener.backing.assemble flow).run World.answer { moved.state with printed := "" }
  writeLog view (moved.events ++ run.events) millis
  IO.eprint run.state.printed
  IO.println s!"{run.result.status} {run.result.body.render}"
  serve listener view run.state

end Passcode.Main

open Passcode in
/-- Start the program and answer requests. -/
def main : IO UInt32 := do
  let millis ← Main.now
  let world : World := { clock := millis, session := { reachability := .refused } }
  let launched := launch World.answer (← Main.readVariables) (← Main.readFiles) world
  if let some view := launched.log? then Main.writeLog view view.events millis
  match launched.result, launched.log? with
  | .ok listener, some view =>
    Main.serve listener view launched.state
    return 0
  | .error fault, _ =>
    IO.eprintln ("Error: " ++ fault.text)
    return 1
  | .ok _, none => return 1
