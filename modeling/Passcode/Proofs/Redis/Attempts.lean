import Passcode.Proofs.Flow.Run
import Passcode.Redis.Store

/-!
# What a call of the Redis store comes to

A call of the store is carried out by one command, or by the script and by teaching it, again and
again until an attempt ends it. Nothing here depends on the server: it may answer what it likes.

## Main definitions

* `StoreCall.Sends`, `StoreCall.Asks` — what a call may send to the server

## Main statements

* `asksOnly_storeFlow` — a call asks nothing else
* `run_retry` — what holds of each attempt that did not end the matter holds of all of them together
* `leads_consume_true` — a record is reported as used up only after the script counted one
-/

namespace Passcode

/-- The commands that carry out a call of a store. -/
def StoreCall.Sends : StoreCall → Redis.Command → Prop
  | .set key value lifetime, c =>
    c = if lifetime > 0 then .setex key lifetime.toNat value else .set key value
  | .get key, c => c = .get key
  | .contains key, c => c = .has key
  | .delete key, c => c = .del key
  | .consume key expected, c => c = .runScript key expected ∨ c = .loadScript

/-- What a call of a store may ask of the server: to execute one of its commands, and to wait. -/
inductive StoreCall.Asks (call : StoreCall) : Redis.Question → Prop
  | send {c : Redis.Command} (h : call.Sends c) : Asks call (.send c)
  | pause (millis : Nat) : Asks call (.pause millis)

namespace Redis

open Passcode.Flow

variable {α σ : Type} {p : Question → Prop}

/-! ## What a call may ask -/

theorem asksOnly_retry {attempt : Nat → Flow ServerInterface (Except Fault α)}
    (h : ∀ n, (attempt n).AsksOnly p) (hpause : ∀ millis, p (.pause millis))
    (isRetriable : Fault → Bool) (complaint : Nat → Nat → Fault → Event) (left number : Nat)
    (delay : UInt64) : (retry attempt isRetriable complaint left number delay).AsksOnly p := by
  induction left generalizing number delay with
  | zero => exact h number
  | succ left ih =>
    refine asksOnly_bind (h number) fun r => ?_
    cases r with
    | ok a => trivial
    | error fault =>
      simp only
      split
      · exact ⟨hpause _, fun _ => ih _ _⟩
      · trivial

namespace Client

variable {purpose : Purpose}

theorem asksOnly_ask {command : Command} {read : Conversion α} (h : p (.send command)) :
    (ask command read).AsksOnly p :=
  ⟨h, fun _ => trivial⟩

theorem asksOnly_complain (r : Except Fault α) : (complain purpose r).AsksOnly p := by
  cases r <;> trivial

/-- Repeating and complaining ask nothing but to wait. -/
theorem asksOnly_execute {attempt : Flow ServerInterface (Except Fault α)}
    (h : attempt.AsksOnly p) (hpause : ∀ millis, p (.pause millis)) (c : Client)
    (purpose : Purpose) : ((c.execute attempt).bind (complain purpose)).AsksOnly p :=
  asksOnly_bind (asksOnly_retry (fun _ => h) hpause _ _ _ _ _) asksOnly_complain

theorem asksOnly_runScript {key expected : String} (hrun : p (.send (.runScript key expected)))
    (hload : p (.send .loadScript)) : (runScript key expected).AsksOnly p := by
  refine asksOnly_bind (asksOnly_ask hrun) fun r => ?_
  cases r with
  | ok n => trivial
  | error fault =>
    simp only
    split
    · refine asksOnly_bind (asksOnly_ask hload) fun r => ?_
      cases r with
      | ok _ => exact asksOnly_ask hrun
      | error fault => trivial
    · trivial

end Client

theorem asksOnly_orElse {event : Event} {negative : α} (r : Except Fault α) :
    (orElse event negative r).AsksOnly p := by
  cases r <;> trivial

theorem asksOnly_succeeded {event : Event} (r : Except Fault Unit) :
    (succeeded event r).AsksOnly p := by
  cases r <;> trivial

/-- **A call asks nothing else** than to execute its own commands, and to wait. -/
theorem asksOnly_storeFlow (c : Client) (call : StoreCall) :
    (storeFlow c call).AsksOnly call.Asks := by
  cases call with
  | set key value lifetime =>
    refine asksOnly_bind ?_ asksOnly_succeeded
    by_cases hpos : lifetime > 0
    · rw [if_pos hpos]
      exact Client.asksOnly_execute (Client.asksOnly_ask (.send (if_pos hpos).symm)) .pause c _
    · rw [if_neg hpos]
      exact Client.asksOnly_execute (Client.asksOnly_ask (.send (if_neg hpos).symm)) .pause c _
  | get key =>
    exact asksOnly_bind (Client.asksOnly_execute (Client.asksOnly_ask (.send rfl)) .pause c _)
      asksOnly_orElse
  | contains key =>
    exact asksOnly_bind (Client.asksOnly_execute (Client.asksOnly_ask (.send rfl)) .pause c _)
      asksOnly_orElse
  | delete key =>
    refine asksOnly_bind (asksOnly_map ?_) asksOnly_orElse
    exact Client.asksOnly_execute (Client.asksOnly_ask (.send rfl)) .pause c _
  | consume key expected =>
    refine asksOnly_bind (asksOnly_map ?_) asksOnly_orElse
    exact Client.asksOnly_execute
      (Client.asksOnly_runScript (.send (.inl rfl)) (.send (.inr rfl))) .pause c _

/-! ## How attempts add up -/

/-- What holds of every attempt that did not end the matter, and of every pause, holds of all of
them together. What it means to end the matter is for the caller to say; a fault does not. -/
theorem run_retry {answer : Surroundings ServerInterface σ} {R : σ → σ → Prop}
    (unsettled : Except Fault α → Prop) (trans : ∀ {s t u}, R s t → R t u → R s u)
    (hpause : ∀ millis s, R s (answer (.pause millis) s).state)
    (hfault : ∀ fault, unsettled (.error fault))
    {attempt : Nat → Flow ServerInterface (Except Fault α)}
    (h : ∀ n s, unsettled ((attempt n).run answer s).result → R s ((attempt n).run answer s).state)
    (isRetriable : Fault → Bool) (complaint : Nat → Nat → Fault → Event) (left number : Nat)
    (delay : UInt64) (s : σ) :
    let run := (retry attempt isRetriable complaint left number delay).run answer s
    unsettled run.result → R s run.state := by
  induction left generalizing number delay s with
  | zero => exact h number s
  | succ left ih =>
    intro run
    have hrun : run = _ := run_bind answer (attempt number) _ s
    have hfirst := h number s
    generalize (attempt number).run answer s = first at hrun hfirst
    obtain ⟨result, events, t⟩ := first
    cases result with
    | ok a =>
      rw [hrun]
      exact hfirst
    | error fault =>
      simp only at hrun hfirst
      split at hrun
      · rw [hrun]
        intro hunsettled
        exact trans (hfirst (hfault fault)) (trans (hpause _ t) (ih _ _ _ hunsettled))
      · rw [hrun]
        exact hfirst

/-! ## A record that is reported as used up -/

/-- A success of many attempts is a success of one of them. -/
theorem exists_leads_of_retry_ok {attempt : Nat → Flow ServerInterface (Except Fault α)}
    {isRetriable : Fault → Bool} {complaint : Nat → Nat → Fault → Event} {left number : Nat}
    {delay : UInt64} {asked : List (Exchange ServerInterface)} {a : α}
    (h : (retry attempt isRetriable complaint left number delay).Leads asked (done (.ok a))) :
    ∃ n ys, (∀ y ∈ ys, y ∈ asked) ∧ (attempt n).Leads ys (done (.ok a)) := by
  induction left generalizing number delay asked with
  | zero => exact ⟨number, asked, fun _ hy => hy, h⟩
  | succ left ih =>
    obtain ⟨r, xs, ys, rfl, hfirst, hrest⟩ := h.of_bind_done
    cases r with
    | ok b =>
      obtain ⟨rfl, hb⟩ := leads_done_iff.1 hrest
      rw [← done.inj hb] at hfirst
      exact ⟨number, xs, fun y hy => List.mem_append_left _ hy, hfirst⟩
    | error fault =>
      simp only at hrest
      split at hrest
      · cases hrest with
        | log hrest =>
          cases hrest with
          | ask _ hrest =>
            obtain ⟨n, us, hus, hn⟩ := ih hrest
            refine ⟨n, us, fun u hu => ?_, hn⟩
            exact List.mem_append_right _ (List.mem_cons_of_mem _ (hus u hu))
      · obtain ⟨-, hb⟩ := leads_done_iff.1 hrest
        cases done.inj hb

namespace Client

theorem leads_ask_ok {command : Command} {read : Conversion α}
    {asked : List (Exchange ServerInterface)} {a : α}
    (h : (ask command read).Leads asked (done (.ok a))) :
    ∃ reply : Reply, read reply = .ok a ∧ asked = [⟨.send command, .ok reply⟩] := by
  cases h with
  | ask answer h =>
    obtain ⟨rfl, hread⟩ := leads_done_iff.1 h
    have hread : Except.bind answer read = .ok a := (done.inj hread).symm
    cases answer with
    | error fault => cases hread
    | ok reply => exact ⟨reply, hread, rfl⟩

theorem leads_runScript_ok {key expected : String} {asked : List (Exchange ServerInterface)}
    {n : UInt32} (h : (runScript key expected).Leads asked (done (.ok n))) :
    ∃ reply : Reply, asUInt32 reply = .ok n
      ∧ ⟨.send (.runScript key expected), .ok reply⟩ ∈ asked := by
  obtain ⟨r, xs, ys, rfl, hfirst, hrest⟩ := h.of_bind_done
  cases r with
  | ok m =>
    obtain ⟨rfl, hm⟩ := leads_done_iff.1 hrest
    obtain ⟨reply, hreply, rfl⟩ := leads_ask_ok hfirst
    rw [← Except.ok.inj (done.inj hm)] at hreply
    exact ⟨reply, hreply, by simp⟩
  | error fault =>
    simp only at hrest
    split at hrest
    · obtain ⟨r, us, zs, rfl, -, hagain⟩ := hrest.of_bind_done
      cases r with
      | ok _ =>
        obtain ⟨reply, hreply, rfl⟩ := leads_ask_ok hagain
        exact ⟨reply, hreply, by simp⟩
      | error fault => cases done.inj (leads_done_iff.1 hagain).2
    · cases done.inj (leads_done_iff.1 hrest).2

end Client

/-- **A record is reported as used up only after the script counted one.** -/
theorem leads_consume_true {c : Client} {key expected : String}
    {asked : List (Exchange ServerInterface)}
    (h : (storeFlow c (.consume key expected)).Leads asked (done true)) :
    ∃ (reply : Reply) (n : UInt32), asUInt32 reply = .ok n ∧ n > 0
      ∧ ⟨.send (.runScript key expected), .ok reply⟩ ∈ asked := by
  obtain ⟨r, xs, ys, rfl, hdeleted, hrest⟩ := Leads.of_bind_done h
  cases r with
  | error fault =>
    cases hrest with
    | log hrest => cases done.inj (leads_done_iff.1 hrest).2
  | ok removed =>
    obtain ⟨rfl, hremoved⟩ := leads_done_iff.1 hrest
    obtain ⟨r, hr, hcomplained⟩ := hdeleted.of_map_done
    cases r with
    | error fault => cases hr
    | ok n =>
      have hpos : decide (n > 0) = true :=
        (Except.ok.inj hr).trans (done.inj hremoved).symm
      obtain ⟨r, us, zs, rfl, hexecuted, hrest⟩ := hcomplained.of_bind_done
      cases r with
      | error fault =>
        cases hrest with
        | log hrest => cases done.inj (leads_done_iff.1 hrest).2
      | ok m =>
        obtain ⟨rfl, hm⟩ := leads_done_iff.1 hrest
        obtain rfl : n = m := Except.ok.inj (done.inj hm)
        obtain ⟨-, ws, hws, hattempt⟩ := exists_leads_of_retry_ok hexecuted
        obtain ⟨reply, hreply, hmem⟩ := Client.leads_runScript_ok hattempt
        exact ⟨reply, n, hreply, of_decide_eq_true hpos, by simpa using hws _ hmem⟩

end Redis

end Passcode
