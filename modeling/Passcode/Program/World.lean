import Passcode.Program.Assembly
import Passcode.Redis.Session
import Passcode.Store.Sweeper
import Passcode.Text.Address

/-!
# The world in memory

The world of the program without a network beyond one session with a server of Redis: the vault of
the process, the channel that only logs, and a clock that stands still unless the program pauses.
Relays cannot be reached.
-/

namespace Passcode

/-- The state of the world. -/
structure World where
  session : Redis.Session := {}
  vault : Vault := {}
  sweepers : List Sweeper := []
  channel : MockChannel := {}
  /-- The time in milliseconds. -/
  clock : Nat := 0
  /-- The number of messages that got an identifier. -/
  identifiers : Nat := 0
  /-- What the channel printed. -/
  printed : String := ""

namespace World

/-- Whether a host can be listened on: one given by its address, which may be abridged, or the host
itself. -/
def isOwnHost (host : List Char) : Bool :=
  Text.isAbridgedIpv4 host || Text.isIpv6 host
    || (host.head? = some '[' && host.getLast? = some ']' && Text.isIpv6 (host.drop 1).dropLast)
    || Text.eqIgnoringAsciiCase (String.ofList host) "localhost"

/-- Whether an address, a host and a port, can be listened on. -/
def canBind (address : String) : Bool :=
  match Text.splitAtLast ':' address.toList with
  | some (host, port) => isOwnHost host && (Text.readBelow (twoTo 16) (String.ofList port)).isSome
  | none => false

/-- The world after its clock has moved to a time, with the events of the sweeps until then. -/
def advanceTo (w : World) (time : Nat) : Flow.Run World Unit :=
  let run := w.vault.elapse w.sweepers w.clock time
  ⟨(), run.events, { w with vault := run.state, clock := time }⟩

/-- Answer a question of the program. -/
def answer : Flow.Surroundings WorldInterface World
  | .server q, w =>
    let r := Redis.Session.answer q w.session
    ⟨r.result, r.events, { w with session := r.state }⟩
  | .vault call, w =>
    let r := w.vault.perform w.clock call
    ⟨r.result, r.events, { w with vault := r.state }⟩
  | .sweep seconds, w =>
    ⟨(), [], { w with sweepers := w.sweepers ++ [⟨w.clock, seconds * millisPerSecond⟩] }⟩
  | .post m, w =>
    let p := w.channel.send (mockIdentifier w.identifiers) m
    ⟨p.delivery, p.events,
      { w with
        channel := p.channel
        identifiers := w.identifiers + 1
        printed := w.printed ++ p.printed }⟩
  | .relay call, w =>
    let r := unreachable call w.identifiers
    ⟨r.result, r.events, { w with identifiers := r.state }⟩
  | .bind address, w => ⟨canBind address, [], w⟩

end World

end Passcode
