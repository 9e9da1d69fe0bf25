import Passcode.Flow
import Passcode.Redis.Endpoint

/-!
# Talking to a Redis server

The commands that the program sends, the conversions of replies to what was asked for, and the
server as surroundings: connecting, sending one command and waiting are its questions. Sending one
command is one atomic step.
-/

namespace Passcode.Redis

/-- A command of the program. -/
inductive Command where
  | set (key value : String)
  | setex (key : String) (seconds : Nat) (value : String)
  | get (key : String)
  | del (key : String)
  | has (key : String)
  | ttl (key : String)
  | ping
  /-- Run the script that deletes a key only while it holds a value. -/
  | runScript (key expected : String)
  /-- Make that script known to the server. -/
  | loadScript
deriving Repr, DecidableEq

/-- The script that deletes a key only while it holds a value. -/
def compareAndDelete : String :=
  "\nif redis.call(\"GET\", KEYS[1]) == ARGV[1] then\n"
    ++ "    return redis.call(\"DEL\", KEYS[1])\nend\nreturn 0\n"

/-- The words of a command; the script goes by the name `scriptName`. -/
def Command.words (scriptName : String) : Command → List String
  | .set key value => ["SET", key, value]
  | .setex key seconds value => ["SETEX", key, toString seconds, value]
  | .get key => ["GET", key]
  | .del key => ["DEL", key]
  | .has key => ["EXISTS", key]
  | .ttl key => ["TTL", key]
  | .ping => ["PING"]
  | .runScript key expected => ["EVALSHA", scriptName, "1", key, expected]
  | .loadScript => ["SCRIPT", "LOAD", compareAndDelete]

/-! ## Reading replies -/

/-- A reader of replies. -/
abbrev Conversion (α : Type) := Reply → Except Fault α

/-- Whatever the reply, the command was executed. -/
def anyReply : Conversion Unit := fun _ => .ok ()

/-- A text. -/
def asText : Conversion String
  | .bulk s => .ok s
  | .status s => .ok s
  | r => .error (.unexpected "Response type not string compatible." r)

/-- A text that may be absent. -/
def asOptionalText : Conversion (Option String)
  | .nil => .ok none
  | r => (asText r).map some

/-- A truth value. -/
def asBool : Conversion Bool
  | .nil => .ok false
  | .int n => .ok (n != 0)
  | .status "OK" => .ok true
  | .status "1" => .ok true
  | .status "0" => .ok false
  | .bulk "1" => .ok true
  | .bulk "0" => .ok false
  | .status s => .error (.unexpected "Response status not valid boolean" (.status s))
  | r => .error (.unexpected "Response type not bool compatible." r)

/-- A number: an integer kept by `wrap`, or a text that `reading` takes. -/
def asNumber {α : Type} (wrap : Int → α) (reading : String → Option α) : Conversion α
  | .int n => .ok (wrap n)
  | .status "OK" => .error (.unexpected "Response type not convertible to numeric." (.status "OK"))
  | .status s =>
    match reading s with
    | some a => .ok a
    | none => .error (.unexpected "Could not convert from string." (.status s))
  | .bulk s =>
    match reading s with
    | some a => .ok a
    | none => .error (.unexpected "Could not convert from string." (.bulk s))
  | r => .error (.unexpected "Response type not convertible to numeric." r)

/-- A number of 32 bits without sign. -/
def asUInt32 : Conversion UInt32 :=
  asNumber (fun n => UInt32.ofInt n) fun s => (Text.readBelow (twoTo 32) s).map UInt32.ofNat

/-- A number of 64 bits with sign. -/
def asInt64 : Conversion Int64 := asNumber Int64.ofInt Text.readInt64

/-! ## The server as surroundings -/

/-- A question to a server. -/
inductive Question where
  /-- Connect, within the given number of seconds. -/
  | dial (endpoint : Endpoint) (timeout : Nat)
  | send (command : Command)
  /-- Wait for some milliseconds. -/
  | pause (millis : Nat)
deriving Repr, DecidableEq

/-- What a question to a server is answered. -/
def Question.Answer : Question → Type
  | .dial .. => Except Fault Unit
  | .send _ => Except Fault Reply
  | .pause _ => Unit

/-- A server as surroundings. -/
abbrev ServerInterface : Interface := ⟨Question, Question.Answer⟩

end Passcode.Redis
