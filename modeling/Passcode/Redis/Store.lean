import Passcode.Redis.Client
import Passcode.Store.Call

/-!
# The store in a Redis server

Every call of a store becomes a command of the client. What the client could not do after its last
attempt is logged and answered negatively.
-/

namespace Passcode.Redis

variable {α : Type}

/-- A negative answer for a fault, with its event. -/
def orElse (event : Event) (negative : α) :
    Except Fault α → Flow ServerInterface α
  | .ok a => .done a
  | .error _ => .log event <| .done negative

/-- Whether a command was done. -/
def succeeded (event : Event) : Except Fault Unit → Flow ServerInterface Bool
  | .ok () => .done true
  | .error _ => .log event <| .done false

/-- The flow that answers a call of a store. -/
def storeFlow (c : Client) : (call : StoreCall) → Flow ServerInterface call.Answer
  | .set key value lifetime =>
    (if lifetime > 0 then c.setWithExpiry key value lifetime.toNat else c.set key value).bind
      (succeeded .storeWriteFailed)
  | .get key => (c.get key).bind (orElse .storeReadFailed none)
  | .contains key => (c.has key).bind (orElse .storeExistsFailed false)
  | .delete key => (c.delete key).bind (orElse .storeDeleteFailed false)
  | .consume key expected => (c.deleteIf key expected).bind (orElse .storeConsumeFailed false)

end Passcode.Redis
