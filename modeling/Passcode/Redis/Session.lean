import Passcode.Redis.Server
import Passcode.Redis.Wire

/-!
# A session with a server that may fail

A session is a server, the connection to it and what is planned to go wrong: a queue of plans, of
which each further command takes one. A session keeps the words of every command that arrived and
counts the time that was spent waiting.

Replies are read in the order in which they arrive. One that arrived unasked waits, and answers the
next command; one that arrived in part waits for the rest, whatever that was meant to be. After
something that is no reply nothing more is read: one further command arrives, unanswered, and the
connection is over.
-/

namespace Passcode.Redis

/-- What becomes of a command. -/
inductive Plan where
  /-- It is executed. -/
  | execute
  /-- It is not executed, and the given replies arrive. -/
  | answer (replies : Replies)
  /-- It arrives, and the connection ends for good. -/
  | close

/-- How attempts to connect end. -/
inductive Reachability where
  | open
  /-- Every attempt is refused. -/
  | refused
  /-- The server takes the connection and never answers. -/
  | silent
deriving Repr, DecidableEq

/-- The state of a connection. -/
inductive Connection where
  /-- Commands arrive, and replies are read; the given text has arrived already. -/
  | working (unread : List Char)
  /-- Commands arrive, but nothing is read any more. -/
  | deaf
  | closed

/-- The state of a session. -/
structure Session where
  server : Server := {}
  reachability : Reachability := .open
  connection : Connection := .closed
  plans : List Plan := []
  /-- The words of the commands that arrived, the latest first. -/
  received : List (List String) := []
  /-- The pauses made, in milliseconds, the latest first. -/
  pauses : List Nat := []
  /-- The time spent on attempts to connect that were never answered, in milliseconds. -/
  stalled : Nat := 0

/-- The fault of a connection that is gone. -/
def brokenPipe : Fault := .io "broken pipe"

/-- The name that stands for the hash of the script. -/
def scriptName : String := "<sha>"

/-- The words by which a client introduces itself. -/
def introduction (e : Endpoint) : List (List String) :=
  (match e.user, e.password with
    | some user, some password => [["AUTH", user, password]]
    | none, some password => [["AUTH", password]]
    | _, none => [])
  ++ (if e.database = 0 then [] else [["SELECT", toString e.database]])

namespace Session

/-- Note a command that arrived. -/
def receive (s : Session) (words : List String) : Session :=
  { s with received := words :: s.received }

/-- What becomes of a command that arrives: the text that is sent back, and whether the server then
ends the connection. -/
def arrive (s : Session) (c : Command) : List Char × Bool × Session :=
  let s := s.receive (c.words scriptName)
  match s.plans with
  | .answer replies :: plans => (replies.text, false, { s with plans := plans })
  | .close :: plans => ([], true, { s with plans := plans })
  | plans =>
    let (reply, server) := s.server.execute 0 c
    (wireText reply, false, { s with server := server, plans := plans.drop 1 })

/-- Send one command. -/
def send (s : Session) (c : Command) : Except Fault Reply × Session :=
  match s.connection with
  | .closed => (.error brokenPipe, s)
  | .deaf => (.error brokenPipe, { (s.arrive c).2.2 with connection := .closed })
  | .working unread =>
    let (text, isOver, s) := s.arrive c
    match takeReply maxNesting (unread ++ text) with
    | .ok (reply, unread) =>
      (reply, { s with connection := if isOver then .closed else .working unread })
    | .error .malformed =>
      (.error .unreadable, { s with connection := if isOver then .closed else .deaf })
    | .error .unfinished => (.error brokenPipe, { s with connection := .closed })

/-- Connect to the server. -/
def dial (s : Session) (e : Endpoint) (timeout : Nat) : Except Fault Unit × Session :=
  match s.reachability with
  | .open =>
    (.ok (), { s with
      connection := .working [], received := (introduction e).reverse ++ s.received })
  | .refused => (.error (.io "Connection refused (os error 111)"), s)
  | .silent =>
    (.error (.io "connection attempt timed out"),
      { s with stalled := s.stalled + timeout * millisPerSecond })

/-- Answer a question of a client. -/
def answer : Flow.Surroundings ServerInterface Session
  | .dial e timeout, s =>
    let (a, s) := s.dial e timeout
    ⟨a, [], s⟩
  | .send c, s =>
    let (a, s) := s.send c
    ⟨a, [], s⟩
  | .pause millis, s => ⟨(), [], { s with pauses := millis :: s.pauses }⟩

/-- Plan what becomes of the next commands. -/
def plan (s : Session) (plans : List Plan) : Session := { s with plans := s.plans ++ plans }

/-- The time spent in pauses and stalled attempts, in milliseconds. -/
def waited (s : Session) : Nat := s.pauses.foldr (· + ·) 0 + s.stalled

end Session

end Passcode.Redis
