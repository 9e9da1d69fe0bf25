import Passcode.Http.App
import Passcode.Log.Start
import Passcode.Program.Assembly
import Passcode.Settings.Load

/-!
# Starting the program

The program loads its settings, starts its log, opens a channel and, if its variant needs one, a
store, and listens. The first of these steps that fails ends it, and what the log shows is what the
filter lets through of the events until then.
-/

namespace Passcode

/-- Why the program did not start. -/
inductive StartFault where
  | settings (fault : Layers.Fault)
  | log (fault : LogFault)
  | store (fault : Redis.Fault)
  | bind (address : String)
deriving Repr

/-- What the program says when it does not start. -/
def StartFault.text : StartFault → String
  | settings _ => "Failed to load configuration"
  | log fault => fault.text
  | store _ => "Failed to initialize code store"
  | bind address => "Failed to bind " ++ address

/-- A program that listens. -/
structure Listener where
  app : Http.App
  backing : Backing
  address : String
deriving Repr

/-- Open the store of a deployment, if its variant needs one. -/
def openNeededStore (s : Settings.App) :
    Flow WorldInterface (Except Redis.Fault (Option OpenStore)) :=
  if s.requiresStore then (openStore s.cache).map fun r => r.map some else .done (.ok none)

/-- Listen over a backing. -/
def listen (s : Settings.App) (b : Backing) : Flow WorldInterface (Except StartFault Listener) :=
  let address := s.server.bindAddress
  let service := b.service (.ofSettings s.verification s.email.sender)
  .log (.binding address) <|
    .ask (.bind address) fun
      | true => .done (.ok ⟨.ofService service s.server.maxPayloadSize.toNat, b, address⟩)
      | false => .done (.error (.bind address))

/-- Start the program with its settings. -/
def start (s : Settings.App) : Flow WorldInterface (Except StartFault Listener) :=
  .log (.starting s.environment s.verification.variant) <|
    (openChannel s.email).bind fun channel =>
      .log (.channelReady channel.provider s.email.fromEmail) <|
        (openNeededStore s).bind fun
          | .error fault => .done (.error (.store fault))
          | .ok store? => listen s ⟨store?, channel⟩

/-- The events that reach the log, and how the lines for them are laid out. -/
structure LogView where
  filter : LogFilter
  layout : Settings.Logging
  events : List Event

/-- The target under which the listener itself logs that it has started. -/
def listenerTarget : String := "actix_server::server"

/-- Whether the log has any lines. -/
def LogView.hasLines (v : LogView) (hasStarted : Bool) : Bool :=
  v.events ≠ [] || hasStarted && v.filter.lets .info listenerTarget ["message"]

/-- The start of a program: the listener or the fault, the log if there was one, and the world
afterwards. -/
structure Launch (σ : Type) where
  result : Except StartFault Listener
  log? : Option LogView
  state : σ

/-- Start the program of a deployment in a world. -/
def launch {σ : Type} (answer : Flow.Surroundings WorldInterface σ) (vars : Settings.Variables)
    (files : Settings.Files) (world : σ) : Launch σ :=
  match Settings.load vars files with
  | .error fault => ⟨.error (.settings fault), none, world⟩
  | .ok s =>
    match startLog false (Settings.allVariables vars files) s.logging with
    | .error fault => ⟨.error (.log fault), none, world⟩
    | .ok filter =>
      let run := (start s).run answer world
      ⟨run.result, some ⟨filter, s.logging, run.events.filter filter.admits⟩, run.state⟩

end Passcode
