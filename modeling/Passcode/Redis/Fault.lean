import Passcode.Text.Quoted

/-!
# Replies and faults of a Redis server

What a server answers, what can go wrong in connecting to it or between asking and understanding the
answer, and which faults are worth another attempt: those of the connection, and the two by which a
server says that it cannot answer yet.
-/

namespace Passcode.Redis

/-- A reply of a server. -/
inductive Reply where
  | nil
  | int (n : Int)
  | bulk (s : String)
  | status (s : String)
  | array (items : List Reply)
deriving Repr, Inhabited

/-- The kinds of faults. -/
inductive FaultKind where
  | io
  | authentication
  | response
  | execAbort
  | busyLoading
  | noScript
  | moved
  | ask
  | tryAgain
  | clusterDown
  | crossSlot
  | masterDown
  | readOnly
  | notBusy
  | extension
  | wrongType
  | configuration
deriving Repr, DecidableEq

/-- The name of a kind, as fault texts and reports give it. -/
def FaultKind.name : FaultKind → String
  | io => "IoError"
  | authentication => "AuthenticationFailed"
  | response => "ResponseError"
  | execAbort => "ExecAbortError"
  | busyLoading => "BusyLoadingError"
  | noScript => "NoScriptError"
  | moved => "Moved"
  | ask => "Ask"
  | tryAgain => "TryAgain"
  | clusterDown => "ClusterDown"
  | crossSlot => "CrossSlot"
  | masterDown => "MasterDown"
  | readOnly => "ReadOnly"
  | notBusy => "NotBusy"
  | extension => "ExtensionError"
  | wrongType => "TypeError"
  | configuration => "InvalidClientConfig"

/-- All kinds. -/
def FaultKind.all : List FaultKind :=
  [io, authentication, response, execAbort, busyLoading, noScript, moved, ask, tryAgain,
    clusterDown, crossSlot, masterDown, readOnly, notBusy, extension, wrongType, configuration]

/-- Whether a fault of a kind may be gone at the next attempt. -/
def FaultKind.isRetriable : FaultKind → Bool
  | io | busyLoading | tryAgain => true
  | _ => false

/-- The kind that the first word of an error reply names. -/
def FaultKind.ofCode? : String → Option FaultKind
  | "ERR" => some response
  | "EXECABORT" => some execAbort
  | "LOADING" => some busyLoading
  | "NOSCRIPT" => some noScript
  | "MOVED" => some moved
  | "ASK" => some ask
  | "TRYAGAIN" => some tryAgain
  | "CLUSTERDOWN" => some clusterDown
  | "CROSSSLOT" => some crossSlot
  | "MASTERDOWN" => some masterDown
  | "READONLY" => some readOnly
  | "NOTBUSY" => some notBusy
  | _ => none

/-- A fault in connecting to a server, or between asking it and understanding its answer. -/
inductive Fault where
  /-- The connection is gone, was refused or took too long; the text says which. -/
  | io (text : String)
  /-- The server does not take the password with which a client introduces itself. -/
  | passwordRefused
  /-- The server does not take the database that a client selects. -/
  | databaseRefused
  /-- An error reply: its first word and the rest. -/
  | signalled (code : String) (detail : Option String)
  /-- What arrived is no reply. -/
  | unreadable
  /-- A reply that cannot be read as what was asked for. -/
  | unexpected (wanted : String) (reply : Reply)
  /-- A connection string that names no server. -/
  | configuration (text : String)
deriving Repr, Inhabited

mutual

/-- A reply as fault texts show it. -/
def Reply.show : Reply → String
  | .nil => "nil"
  | .int n => s!"int({n})"
  | .bulk s => "string-data('" ++ Text.quoted s ++ "')"
  | .status "OK" => "ok"
  | .status s => "status(" ++ Text.quoted s ++ ")"
  | .array items => "bulk(" ++ showItems items ++ ")"

/-- Replies with commas between them. -/
def showItems : List Reply → String
  | [] => ""
  | [r] => r.show
  | r :: rs => r.show ++ ", " ++ showItems rs

end

namespace Fault

/-- The kind of a fault. -/
def kind : Fault → FaultKind
  | .io _ => .io
  | .passwordRefused => .authentication
  | .databaseRefused => .response
  | .signalled code _ => (FaultKind.ofCode? code).getD .extension
  | .unreadable => .response
  | .unexpected _ _ => .wrongType
  | .configuration _ => .configuration

/-- Whether a further attempt may succeed. -/
def isRetriable (f : Fault) : Bool := f.kind.isRetriable

/-- The text of a fault. -/
def text : Fault → String
  | .io text => text
  | .passwordRefused => "Password authentication failed- AuthenticationFailed"
  | .databaseRefused => "Redis server refused to switch database- ResponseError"
  | .signalled code detail =>
    match FaultKind.ofCode? code, detail with
    | some kind, some d => "An error was signalled by the server - " ++ kind.name ++ ": " ++ d
    | some kind, none => "An error was signalled by the server- " ++ kind.name
    | none, d => code ++ ": " ++ d.getD "Unknown extension error encountered"
  | .unreadable => "parse error- ResponseError"
  | .unexpected wanted reply =>
    "Response was of incompatible type - TypeError: \"" ++ wanted ++ "\" (response was "
      ++ reply.show ++ ")"
  | .configuration text => text ++ "- InvalidClientConfig"

end Fault

end Passcode.Redis
