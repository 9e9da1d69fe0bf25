import Passcode.Redis.Command
import Passcode.Store.Vault

/-!
# A Redis server

What a server does with the commands of the program when nothing fails: every command is executed
at once, on records that are present exactly while their deadline has not come. It knows the
compare-and-delete script only after it was taught.
-/

namespace Passcode.Redis

/-- The state of a server. -/
structure Server where
  records : Keyed Record := {}
  knowsScript : Bool := false
deriving Repr, DecidableEq

namespace Server

/-- The record under a key that is present at a time. -/
def present? (s : Server) (now : Nat) (key : String) : Option Record :=
  (s.records.find? key).filter (·.isLive now)

/-- The server without the record under a key. -/
def erase (s : Server) (key : String) : Server := { s with records := s.records.erase key }

/-- The server with a record in place of what is under its key. -/
def insert (s : Server) (key : String) (r : Record) : Server :=
  { s with records := s.records.insert key r }

/-- Remove a key if a condition holds: the number of keys removed. -/
def removeIf (s : Server) (condition : Bool) (key : String) : Except Fault Reply × Server :=
  if condition then (.ok (.int 1), s.erase key) else (.ok (.int 0), s)

/-- The seconds a record still has, rounded to the nearest; -1 without a deadline, -2 without a
record. -/
def secondsLeft (now : Nat) : Option Record → Int
  | none => -2
  | some r =>
    match r.deadline with
    | none => -1
    | some d => ((d - now + millisPerSecond / 2) / millisPerSecond : Nat)

/-- Execute a command at a time. -/
def execute (now : Nat) (s : Server) : Command → Except Fault Reply × Server
  | .set key value => (.ok (.status "OK"), s.insert key ⟨value, none⟩)
  | .setex key seconds value =>
    if seconds = 0 then
      (.error (.signalled "ERR" (some "invalid expire time in 'setex' command")), s)
    else (.ok (.status "OK"), s.insert key ⟨value, some (now + seconds * millisPerSecond)⟩)
  | .get key =>
    match s.present? now key with
    | some r => (.ok (.bulk r.value), s)
    | none => (.ok .nil, s)
  | .del key => s.removeIf (s.present? now key).isSome key
  | .has key => (.ok (.int (if (s.present? now key).isSome then 1 else 0)), s)
  | .ttl key => (.ok (.int (secondsLeft now (s.present? now key))), s)
  | .ping => (.ok (.status "PONG"), s)
  | .runScript key expected =>
    if s.knowsScript then s.removeIf ((s.present? now key).any (·.value == expected)) key
    else (.error (.signalled "NOSCRIPT" (some "No matching script. Please use EVAL.")), s)
  | .loadScript => (.ok (.bulk "script"), { s with knowsScript := true })

end Server

end Passcode.Redis
