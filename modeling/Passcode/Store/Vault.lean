import Passcode.Keyed
import Passcode.Number.Power
import Passcode.Store.Call

/-!
# The store in memory

A vault keeps records in the memory of the process. A record with a deadline is live as long as
the clock is before it; an expired one is gone for every reader, and leaves the memory when it is
next looked at or swept. The clock counts milliseconds.

During an outage every call of a store is answered as if nothing could be reached, and changes
nothing.

## Main definitions

* `Vault.perform` — the answer to a call of a store
* `Vault.purge` — drop what has expired
* `Vault.remaining?` — how long a record still lives
-/

namespace Passcode

/-- A record: its value, and the time from which on it has expired. -/
structure Record where
  value : String
  deadline : Option Nat
deriving Repr, DecidableEq

/-- Whether a record is live at a time. -/
def Record.isLive (r : Record) (now : Nat) : Bool :=
  match r.deadline with
  | none => true
  | some d => now < d

/-- The records of a process. -/
structure Vault where
  records : Keyed Record := {}
  /-- Whether an outage is simulated. -/
  outage : Bool := false
deriving Repr, DecidableEq

/-- The last second that a clock can name. -/
def lastSecond : Int := maxSigned 64

/-- The milliseconds of a second. -/
def millisPerSecond : Nat := 1000

namespace Vault

/-- The record under a key, expired or not. -/
def find? (v : Vault) (key : String) : Option Record := v.records.find? key

/-- The record under a key, if it is live. -/
def live? (v : Vault) (key : String) (now : Nat) : Option Record :=
  (v.find? key).filter (·.isLive now)

/-- The vault without the record under a key. -/
def erase (v : Vault) (key : String) : Vault := { v with records := v.records.erase key }

/-- The vault with a record in place of what is under its key. -/
def insert (v : Vault) (key : String) (r : Record) : Vault :=
  { v with records := v.records.insert key r }

/-- The number of records held, expired ones included. -/
def size (v : Vault) : Nat := v.records.size

/-- Whether no record is held. -/
def isEmpty (v : Vault) : Bool := v.size == 0

/-- The deadline of a record that is kept for `lifetime` seconds: none for a lifetime of zero or
less, and the outer `none` for one that the clock cannot name. -/
def deadline? (now : Nat) (lifetime : Int) : Option (Option Nat) :=
  if lifetime ≤ 0 then some none
  else if (now / millisPerSecond : Nat) + lifetime > lastSecond then none
  else some (some (now + lifetime.toNat * millisPerSecond))

/-- The vault without the record under a key, if that has expired. -/
def dropExpired (v : Vault) (key : String) (now : Nat) : Vault :=
  match v.find? key with
  | some r => if r.isLive now then v else v.erase key
  | none => v

/-- Keep a value. -/
def set (v : Vault) (now : Nat) (key value : String) (lifetime : Int) : Flow.Run Vault Bool :=
  if v.outage then ⟨false, [.memoryOutage], v⟩
  else
    match deadline? now lifetime with
    | none => ⟨false, [.lifetimeOutOfRange lifetime], v⟩
    | some deadline => ⟨true, [], v.insert key ⟨value, deadline⟩⟩

/-- Read a value. A record that is found expired is dropped. -/
def get (v : Vault) (now : Nat) (key : String) : Flow.Run Vault (Option String) :=
  if v.outage then ⟨none, [], v⟩
  else ⟨(v.live? key now).map (·.value), [], v.dropExpired key now⟩

/-- Whether a live record is under a key. -/
def contains (v : Vault) (now : Nat) (key : String) : Flow.Run Vault Bool :=
  if v.outage then ⟨false, [], v⟩ else ⟨(v.live? key now).isSome, [], v⟩

/-- Remove a record. -/
def delete (v : Vault) (now : Nat) (key : String) : Flow.Run Vault Bool :=
  if v.outage then ⟨false, [], v⟩ else ⟨(v.live? key now).isSome, [], v.erase key⟩

/-- Remove a record that holds the expected value. A record that is found expired is dropped. -/
def consume (v : Vault) (now : Nat) (key expected : String) : Flow.Run Vault Bool :=
  if v.outage then ⟨false, [], v⟩
  else
    match v.find? key with
    | none => ⟨false, [], v⟩
    | some r =>
      if r.isLive now then
        if r.value = expected then ⟨true, [], v.erase key⟩ else ⟨false, [], v⟩
      else ⟨false, [], v.erase key⟩

/-- Answer a call of a store at a time. -/
def perform (now : Nat) (call : StoreCall) (v : Vault) : Flow.Run Vault call.Answer :=
  match call with
  | .set key value lifetime => v.set now key value lifetime
  | .get key => v.get now key
  | .contains key => v.contains now key
  | .delete key => v.delete now key
  | .consume key expected => v.consume now key expected

/-- The milliseconds that a live record with a deadline still has. -/
def remaining? (v : Vault) (now : Nat) (key : String) : Option Nat :=
  (v.live? key now).bind fun r => r.deadline.map (· - now)

/-- The vault without the records that have expired. -/
def purge (v : Vault) (now : Nat) : Vault :=
  { v with records := v.records.keep (·.isLive now) }

/-- The number of records that a purge removes. -/
def purgeCount (v : Vault) (now : Nat) : Nat := v.size - (v.purge now).size

end Vault

end Passcode
