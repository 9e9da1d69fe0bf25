import Passcode.Mask
import Passcode.Redis.Command
import Passcode.Settings.Cache

/-!
# A client that tries again

Connecting and every command are attempted up to a fixed number of times with a growing pause in
between. A command is attempted again only after a fault that may pass; connecting is attempted
again after every fault. The pause doubles, and a doubled pause is cut to five seconds.

`Client.retry` is the loop over attempts, by recursion on the attempts that are left; so it always
ends, makes at least one attempt, and makes none after one that succeeded.
-/

namespace Passcode.Redis

/-- The longest pause that doubling leads to, in milliseconds. -/
def maxDelay : UInt64 := 5000

/-- The pause after the next attempt, given the one after this. -/
def nextDelay (delay : UInt64) : UInt64 := min (delay * 2) maxDelay

/-- A connected client: how many attempts it makes, and the first pause in milliseconds. -/
structure Client where
  maxAttempts : Nat
  delay : UInt64
deriving Repr, DecidableEq

/-- The number of attempts that a setting allows: at least one. -/
def attemptLimit (maxRetries : UInt32) : Nat := max 1 maxRetries.toNat

variable {α : Type}

/-- Attempt something with `left` further attempts to follow at most. `number` is the number of this
attempt and `delay` the pause after it. -/
def retry (attempt : Nat → Flow ServerInterface (Except Fault α)) (isRetriable : Fault → Bool)
    (complaint : Nat → Nat → Fault → Event) :
    Nat → Nat → UInt64 → Flow ServerInterface (Except Fault α)
  | 0, number, _ => attempt number
  | left + 1, number, delay =>
    (attempt number).bind fun
      | .ok a => .done (.ok a)
      | .error fault =>
        if isRetriable fault then
          .log (complaint number delay.toNat fault) <|
            .ask (.pause delay.toNat) fun _ =>
              retry attempt isRetriable complaint left (number + 1) (nextDelay delay)
        else .done (.error fault)

namespace Client

/-- Connect as the settings say. -/
def connect (s : Settings.Cache) : Flow ServerInterface (Except Fault Client) :=
  .log (.clientStarting (Mask.url s.url) s.maxRetries.toNat) <|
    match Endpoint.ofUrl s.url with
    | .error fault => .log (.urlRejected fault) <| .done (.error fault)
    | .ok endpoint =>
      let limit := attemptLimit s.maxRetries
      let timeout := max 1 s.connectionTimeout.toNat
      let dial (number : Nat) : Flow ServerInterface (Except Fault Unit) :=
        .log (.connecting number) <| .ask (.dial endpoint timeout) .done
      (retry dial (fun _ => true) (fun n d f => .connectRetry n limit d f) (limit - 1) 1
        s.retryDelayMs).bind fun
        | .error fault => .log (.connectGivenUp limit fault) <| .done (.error fault)
        | .ok () =>
          .log .connected <| .log .clientReady <| .done (.ok ⟨limit, s.retryDelayMs⟩)

/-- Run one attempt of something again and again, as the client is set up. -/
def execute (c : Client) (attempt : Flow ServerInterface (Except Fault α)) :
    Flow ServerInterface (Except Fault α) :=
  retry (fun _ => attempt) Fault.isRetriable (fun n d f => .commandRetry n c.maxAttempts d f)
    (c.maxAttempts - 1) 1 c.delay

/-- Send a command once and read its reply. -/
def ask (command : Command) (read : Conversion α) : Flow ServerInterface (Except Fault α) :=
  .ask (.send command) fun reply => .done (reply.bind read)

/-- Log a fault as the end of what was meant to be done. -/
def complain (purpose : Purpose) :
    Except Fault α → Flow ServerInterface (Except Fault α)
  | .ok a => .done (.ok a)
  | .error fault => .log (.commandFailed purpose fault) <| .done (.error fault)

/-- Keep a value for some seconds. -/
def setWithExpiry (c : Client) (key value : String) (seconds : Nat) :
    Flow ServerInterface (Except Fault Unit) :=
  .log (.settingWithExpiry seconds) <|
    (c.execute (ask (.setex key seconds value) anyReply)).bind (complain .setWithExpiry)

/-- Keep a value for good. -/
def set (c : Client) (key value : String) : Flow ServerInterface (Except Fault Unit) :=
  .log .settingWithoutExpiry <|
    (c.execute (ask (.set key value) anyReply)).bind (complain .set)

/-- Read a value. -/
def get (c : Client) (key : String) : Flow ServerInterface (Except Fault (Option String)) :=
  (c.execute (ask (.get key) asOptionalText)).bind (complain .get)

/-- Remove a key; true if it was there. -/
def delete (c : Client) (key : String) : Flow ServerInterface (Except Fault Bool) :=
  ((c.execute (ask (.del key) asUInt32)).bind (complain .delete)).map
    fun r => r.map fun n => n > 0

/-- Run the compare-and-delete script once. A server that does not know the script is taught it
and asked again. -/
def runScript (key expected : String) : Flow ServerInterface (Except Fault UInt32) :=
  (ask (.runScript key expected) asUInt32).bind fun
    | .ok n => .done (.ok n)
    | .error fault =>
      if fault.kind = .noScript then
        (ask .loadScript anyReply).bind fun
          | .ok () => ask (.runScript key expected) asUInt32
          | .error fault => .done (.error fault)
      else .done (.error fault)

/-- Remove a key only while it holds a value; true if this removed it. -/
def deleteIf (c : Client) (key expected : String) : Flow ServerInterface (Except Fault Bool) :=
  ((c.execute (runScript key expected)).bind (complain .compareAndDelete)).map
    fun r => r.map fun n => n > 0

/-- Whether a key is there. -/
def has (c : Client) (key : String) : Flow ServerInterface (Except Fault Bool) :=
  (c.execute (ask (.has key) asBool)).bind (complain .probe)

/-- The seconds a key still has; none for a key that is not there or has no end. -/
def remaining (c : Client) (key : String) : Flow ServerInterface (Except Fault (Option Int64)) :=
  (c.execute (ask (.ttl key) asInt64)).map
    fun r => r.map fun n => if n ≥ 0 then some n else none

/-- Whether the server answers as it should. -/
def isHealthy (c : Client) : Flow ServerInterface (Except Fault Bool) :=
  (c.execute (ask .ping asText)).bind fun
    | .error fault => .log (.healthCheckFailed fault) <| .done (.error fault)
    | .ok "PONG" => .done (.ok true)
    | .ok answer => .log (.healthCheckOdd answer) <| .done (.ok false)

end Client

end Passcode.Redis
