import Passcode.Message
import Passcode.Store.Call

/-!
# What the service asks of its surroundings

The service of codes keeps records in a store and sends messages through a channel. Both are
foreign code: writing a record and sending a message may also break down instead of answering.
-/

namespace Passcode

/-- An answer, or a breakdown with the text it carries, if it carries one. -/
inductive Attempt (α : Type) where
  | done (a : α)
  | panicked (reason : Option String)
deriving Repr, DecidableEq

/-- What became of a message. -/
inductive Delivery where
  | sent (id : String)
  /-- The reason is for the log only. -/
  | failed (reason : String)
deriving Repr, DecidableEq

/-- A call of the service. -/
inductive ServiceCall where
  | set (key value : String) (lifetime : Int)
  | get (key : String)
  | contains (key : String)
  | consume (key expected : String)
  | send (m : Message)
deriving Repr, DecidableEq

/-- What a call of the service is answered. -/
def ServiceCall.Answer : ServiceCall → Type
  | .set .. => Attempt Bool
  | .get _ => Option String
  | .contains _ | .consume .. => Bool
  | .send _ => Attempt Delivery

/-- The surroundings of the service. -/
abbrev ServiceInterface : Interface := ⟨ServiceCall, ServiceCall.Answer⟩

/-- The store call behind a call of the service; messages do not go to the store. -/
def ServiceCall.store? : ServiceCall → Option StoreCall
  | .set key value lifetime => some (.set key value lifetime)
  | .get key => some (.get key)
  | .contains key => some (.contains key)
  | .consume key expected => some (.consume key expected)
  | .send _ => none

end Passcode
