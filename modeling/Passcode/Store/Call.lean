import Passcode.Flow

/-!
# Stores of codes

A store keeps texts under keys, each with an optional lifetime. It answers every call with a
boolean or a text and never fails otherwise: what goes wrong behind it shows as a negative answer
and in the log.
-/

namespace Passcode

/-- A call on a store. -/
inductive StoreCall where
  /-- Keep `value` under `key`, in place of what is there, for `lifetime` seconds; zero or less
  means for good. -/
  | set (key value : String) (lifetime : Int)
  | get (key : String)
  /-- Whether a live record is under `key`. -/
  | contains (key : String)
  /-- Remove a record; true only if this call removed it. -/
  | delete (key : String)
  /-- Remove a record only if it holds `expected`; true only if this call removed it. -/
  | consume (key expected : String)
deriving Repr, DecidableEq

/-- What a store answers to a call. -/
def StoreCall.Answer : StoreCall → Type
  | .get _ => Option String
  | _ => Bool

/-- Stores as surroundings. -/
abbrev StoreInterface : Interface := ⟨StoreCall, StoreCall.Answer⟩

end Passcode
