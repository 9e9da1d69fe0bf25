import Passcode.Proofs.Flow.Run
import Passcode.Proofs.Store.Ideal
import Passcode.Redis.Server
import Passcode.Redis.Store

/-!
# The Redis store over a server that does not fail

With a server that executes every command, no attempt of the client is repeated, and every call of
a store is answered as by the ideal map of the keys that are present. It does not matter how many
attempts the client would make, nor whether the server has seen the script before.

## Main definitions

* `Server.answer` — a server that does not fail, under a clock

## Main statements

* `Client.yields_execute` — a first attempt that succeeds is the only one
* `Server.storeFlow_ideal` — one call
-/

namespace Passcode.Redis

open Function

variable {α σ : Type}

/-! ## First attempts -/

section FirstAttempts

variable {answer : Flow.Surroundings ServerInterface σ} {s s' : σ} {a : α}

theorem yields_retry {attempt : Nat → Flow ServerInterface (Except Fault α)} {number : Nat}
    (h : (attempt number).Yields answer s (.ok a) s') (isRetriable : Fault → Bool)
    (complaint : Nat → Nat → Fault → Event) (left : Nat) (delay : UInt64) :
    (retry attempt isRetriable complaint left number delay).Yields answer s (.ok a) s' := by
  cases left with
  | zero => exact h
  | succ left => exact h.bind Flow.yields_done

/-- A first attempt that succeeds is the only one. -/
theorem Client.yields_execute {attempt : Flow ServerInterface (Except Fault α)}
    (h : attempt.Yields answer s (.ok a) s') (c : Client) :
    (c.execute attempt).Yields answer s (.ok a) s' :=
  yields_retry h _ _ _ _

/-- What is attempted with success is not complained about. -/
theorem Client.yields_complain {attempt : Flow ServerInterface (Except Fault α)}
    (h : attempt.Yields answer s (.ok a) s') (c : Client) (purpose : Purpose) :
    ((c.execute attempt).bind (complain purpose)).Yields answer s (.ok a) s' :=
  (c.yields_execute h).bind Flow.yields_done

theorem yields_orElse {m : Flow ServerInterface (Except Fault α)}
    (h : m.Yields answer s (.ok a) s') (event : Event) (negative : α) :
    (m.bind (orElse event negative)).Yields answer s a s' :=
  h.bind Flow.yields_done

theorem yields_succeeded {m : Flow ServerInterface (Except Fault Unit)}
    (h : m.Yields answer s (.ok ()) s') (event : Event) :
    (m.bind (succeeded event)).Yields answer s true s' :=
  h.bind Flow.yields_done

end FirstAttempts

namespace Server

/-- A server that does not fail, under a clock. -/
def answer : Flow.Surroundings ServerInterface (Clocked Server)
  | .dial .., s => ⟨.ok (), [], s⟩
  | .send command, s =>
    let (reply, store) := s.store.execute s.clock command
    ⟨reply, [], { s with store }⟩
  | .pause millis, s => ⟨(), [], { s with clock := s.clock + millis }⟩

variable {s : Clocked Server} {now : Nat}

/-- One command, by what the server does with it. -/
theorem yields_ask {command : Command} {read : Conversion α} {reply : Reply} {a : α}
    {store : Server} (hexecute : s.store.execute s.clock command = (.ok reply, store))
    (hread : read reply = .ok a) :
    (Client.ask command read).Yields answer s (.ok a) ⟨s.clock, store⟩ := by
  constructor
  · simp only [Client.ask, Flow.run, answer, hexecute]
    exact hread
  · simp only [Client.ask, Flow.run, answer, hexecute]

/-! ## The keys that are present -/

theorem present?_insert {r : Record} (hr : r.isLive now = true) (s : Server) (key : String) :
    (s.insert key r).present? now = update (s.present? now) key (some r) :=
  Vault.view_insert hr { records := s.records } key

theorem present?_erase (s : Server) (key : String) (now : Nat) :
    (s.erase key).present? now = update (s.present? now) key none :=
  Vault.view_erase { records := s.records } key now

theorem present?_of_le {later : Nat} (h : now ≤ later) (s : Server) :
    s.present? later = fun key => (s.present? now key).filter (·.isLive later) :=
  Vault.view_of_le h { records := s.records }

/-! ## Calls -/

/-- The Redis store answers a call as the ideal map of the keys that are present. -/
def Follows (c : Client) (s : Clocked Server) (call : StoreCall) : Prop :=
  ∃ store, (storeFlow c call).Yields answer s
      (Ideal.perform s.clock (s.store.present? s.clock) call).1 ⟨s.clock, store⟩
    ∧ store.present? s.clock = (Ideal.perform s.clock (s.store.present? s.clock) call).2

theorem follows_get (c : Client) (s : Clocked Server) (key : String) :
    Follows c s (.get key) := by
  refine ⟨s.store, ?_, rfl⟩
  refine yields_orElse (Client.yields_complain ?_ c .get) _ _
  cases hr : s.store.present? s.clock key with
  | none =>
    have hexecute : s.store.execute s.clock (.get key) = (.ok .nil, s.store) := by
      rw [execute, hr]
    refine yields_ask hexecute ?_
    rw [Ideal.perform, hr]
    rfl
  | some r =>
    have hexecute : s.store.execute s.clock (.get key) = (.ok (.bulk r.value), s.store) := by
      rw [execute, hr]
    refine yields_ask hexecute ?_
    rw [Ideal.perform, hr]
    rfl

theorem follows_contains (c : Client) (s : Clocked Server) (key : String) :
    Follows c s (.contains key) := by
  refine ⟨s.store, ?_, rfl⟩
  refine yields_orElse (Client.yields_complain ?_ c .probe) _ _
  refine yields_ask rfl ?_
  rw [Ideal.perform]
  cases s.store.present? s.clock key <;> rfl

/-- A removal under a condition: the number of keys removed. -/
theorem yields_removeIf {command : Command} {condition : Bool} {key : String}
    (h : s.store.execute s.clock command = s.store.removeIf condition key) :
    (Client.ask command asUInt32).Yields answer s (.ok (if condition then 1 else 0))
      ⟨s.clock, if condition then s.store.erase key else s.store⟩ := by
  cases condition with
  | true => exact yields_ask h rfl
  | false => exact yields_ask h rfl

theorem follows_delete (c : Client) (s : Clocked Server) (key : String) :
    Follows c s (.delete key) := by
  have hexecute : s.store.execute s.clock (.del key)
      = s.store.removeIf (s.store.present? s.clock key).isSome key := rfl
  have hremoved := (Client.yields_complain (yields_removeIf hexecute) c .delete).map
    fun r => r.map fun n => decide (n > 0)
  cases hr : s.store.present? s.clock key with
  | none =>
    rw [hr] at hremoved
    refine ⟨s.store, ?_, ?_⟩
    · refine yields_orElse ?_ _ _
      rw [Ideal.perform, hr]
      exact hremoved
    · rw [Ideal.perform, ← hr, update_eq_self]
  | some r =>
    rw [hr] at hremoved
    refine ⟨s.store.erase key, ?_, present?_erase s.store key s.clock⟩
    refine yields_orElse ?_ _ _
    rw [Ideal.perform, hr]
    exact hremoved

/-- A server that knows the script executes it. -/
theorem yields_ask_script (hknows : s.store.knowsScript = true) (key expected : String) :
    (Client.ask (.runScript key expected) asUInt32).Yields answer s
      (.ok (if (s.store.present? s.clock key).any (·.value == expected) then 1 else 0))
      ⟨s.clock, if (s.store.present? s.clock key).any (·.value == expected)
        then s.store.erase key else s.store⟩ := by
  refine yields_removeIf ?_
  rw [execute, if_pos hknows]

/-- A server that does not know the script is taught it and asked again. -/
theorem yields_runScript (s : Clocked Server) (key expected : String) :
    (Client.runScript key expected).Yields answer s
      (.ok (if (s.store.present? s.clock key).any (·.value == expected) then 1 else 0))
      ⟨s.clock, if (s.store.present? s.clock key).any (·.value == expected)
        then { s.store with knowsScript := true }.erase key
        else { s.store with knowsScript := true }⟩ := by
  obtain ⟨clock, records, knowsScript⟩ := s
  cases knowsScript with
  | true => exact (yields_ask_script rfl key expected).bind Flow.yields_done
  | false =>
    have hunknown : (Client.ask (.runScript key expected) asUInt32).Yields answer
        ⟨clock, records, false⟩
        (.error (.signalled "NOSCRIPT" (some "No matching script. Please use EVAL.")))
        ⟨clock, records, false⟩ := ⟨rfl, rfl⟩
    have htaught : (Client.ask .loadScript anyReply).Yields answer ⟨clock, records, false⟩ (.ok ())
        ⟨clock, records, true⟩ := yields_ask rfl rfl
    exact hunknown.bind (htaught.bind (yields_ask_script rfl key expected))

theorem follows_consume (c : Client) (s : Clocked Server) (key expected : String) :
    Follows c s (.consume key expected) := by
  have hremoved := (Client.yields_complain (yields_runScript s key expected) c
    .compareAndDelete).map fun r => r.map fun n => decide (n > 0)
  have hsame : (s.store.present? s.clock key).any (·.value == expected) = true
      ↔ (s.store.present? s.clock key).map (·.value) = some expected := by
    cases s.store.present? s.clock key with
    | none => simp
    | some r => simp
  by_cases hholds : (s.store.present? s.clock key).map (·.value) = some expected
  · have hideal : Ideal.perform s.clock (s.store.present? s.clock) (.consume key expected)
        = (true, update (s.store.present? s.clock) key none) := by
      rw [Ideal.perform, if_pos hholds]
      rfl
    rw [hsame.2 hholds] at hremoved
    rw [Follows, hideal]
    exact ⟨_, yields_orElse hremoved _ _, present?_erase _ key s.clock⟩
  · have hideal : Ideal.perform s.clock (s.store.present? s.clock) (.consume key expected)
        = (false, s.store.present? s.clock) := by
      rw [Ideal.perform, if_neg hholds]
      rfl
    rw [Bool.eq_false_iff.2 (mt hsame.1 hholds)] at hremoved
    rw [Follows, hideal]
    exact ⟨_, yields_orElse hremoved _ _, rfl⟩

theorem follows_set (c : Client) (s : Clocked Server) {lifetime : Int} {d : Option Nat}
    (hd : Vault.deadline? s.clock lifetime = some d) (key value : String) :
    Follows c s (.set key value lifetime) := by
  have hideal : Ideal.perform s.clock (s.store.present? s.clock) (.set key value lifetime)
      = (true, update (s.store.present? s.clock) key (some ⟨value, d⟩)) := by
    rw [Ideal.perform_set, hd]
    rfl
  rw [Follows, hideal]
  refine ⟨s.store.insert key ⟨value, d⟩, ?_,
    present?_insert (Vault.isLive_of_deadline? hd) s.store key⟩
  by_cases hpos : 0 < lifetime
  · have hexecute : s.store.execute s.clock (.setex key lifetime.toNat value)
        = (.ok (.status "OK"), s.store.insert key ⟨value, d⟩) := by
      rw [execute, if_neg (by omega), Vault.eq_of_deadline? hpos hd]
    have hsent : (Client.ask (.setex key lifetime.toNat value) anyReply).Yields answer s (.ok ())
        ⟨s.clock, s.store.insert key ⟨value, d⟩⟩ := yields_ask hexecute rfl
    rw [storeFlow, if_pos hpos]
    exact yields_succeeded (Client.yields_complain hsent c .setWithExpiry).log _
  · have hsent : (Client.ask (.set key value) anyReply).Yields answer s (.ok ())
        ⟨s.clock, s.store.insert key ⟨value, d⟩⟩ := by
      rw [Vault.eq_none_of_deadline? (by omega) hd]
      exact yields_ask rfl rfl
    rw [storeFlow, if_neg hpos]
    exact yields_succeeded (Client.yields_complain hsent c .set).log _

/-- Whether the clock can name the deadline of what a call writes, if it writes something. -/
def Writable (now : Nat) : StoreCall → Prop
  | .set _ _ lifetime => Vault.deadline? now lifetime ≠ none
  | _ => True

/-- **One call.** The Redis store answers as the ideal map of the keys that are present. -/
theorem storeFlow_ideal (c : Client) (s : Clocked Server) {call : StoreCall}
    (h : Writable s.clock call) : Follows c s call := by
  cases call with
  | set key value lifetime =>
    obtain ⟨d, hd⟩ := Option.ne_none_iff_exists'.1 h
    exact follows_set c s hd key value
  | get key => exact follows_get c s key
  | contains key => exact follows_contains c s key
  | delete key => exact follows_delete c s key
  | consume key expected => exact follows_consume c s key expected

end Server

end Passcode.Redis
