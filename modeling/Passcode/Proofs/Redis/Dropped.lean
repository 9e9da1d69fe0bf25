import Passcode.Proofs.Redis.Attempts
import Passcode.Proofs.Redis.Store

/-!
# A connection that is dropped

A client talks to its server over one connection, which it made at the start. When the server drops
it, every further command fails with a fault of the connection. Such a fault is worth another
attempt, but the attempts are made on the same connection: no call connects anew. So from then on
the store answers every call negatively, however many attempts the client makes and although the
server would take a new connection.

## Main definitions

* `StoreCall.negative` — the negative answer to a call
* `Link` — a server behind one connection
* `Link.Fails` — a flow that ends with a fault and leaves the server alone

## Main statements

* `Link.run_of_isOpen` — an open connection does not show
* `Link.yields_negative` — one call over a dropped connection
* `Link.dropped_stays_dropped` — all calls over a dropped connection
* `Link.dropped_although_server_would_answer` — a new connection would have been answered
-/

namespace Passcode

/-- The negative answer to a call of a store. -/
def StoreCall.negative : (call : StoreCall) → call.Answer
  | .get _ => none
  | .set .. | .contains _ | .delete _ | .consume .. => false

namespace Redis

open Passcode.Flow

variable {α β : Type}

/-- A server behind one connection. -/
structure Link where
  site : Clocked Server
  isOpen : Bool := true

namespace Link

/-- Answer a question. Over a dropped connection every command fails; to connect makes a new one. -/
def answer : Surroundings ServerInterface Link
  | .dial .., l => ⟨.ok (), [], { l with isOpen := true }⟩
  | .send c, l =>
    if l.isOpen then
      let r := Server.answer (.send c) l.site
      ⟨r.result, [], { l with site := r.state }⟩
    else ⟨.error (.io "broken pipe"), [], l⟩
  | .pause millis, l => ⟨(), [], { l with site := (Server.answer (.pause millis) l.site).state }⟩

/-- Answer a call of the store, through a client. -/
def perform (c : Client) : Surroundings StoreInterface Link :=
  fun call l => (storeFlow c call).run answer l

variable {l l' : Link}

/-- An open connection does not show: the server answers as it is, and the connection stays. -/
theorem run_of_isOpen (c : Client) (call : StoreCall) (h : l.isOpen = true) :
    (perform c call l).result = ((storeFlow c call).run Server.answer l.site).result
      ∧ (perform c call l).state.isOpen = true
      ∧ (perform c call l).state.site = ((storeFlow c call).run Server.answer l.site).state := by
  refine run_simulates (R := fun (l : Link) site => l.isOpen = true ∧ l.site = site)
    (asksOnly_storeFlow c call) (fun q _ l site hl => ?_) ⟨h, rfl⟩
  obtain ⟨hopen, rfl⟩ := hl
  cases q with
  | dial endpoint timeout => exact ⟨rfl, rfl, rfl⟩
  | send command =>
    rw [answer, if_pos hopen]
    exact ⟨rfl, hopen, rfl⟩
  | pause millis => exact ⟨rfl, hopen, rfl⟩

/-- A dropped connection, with the server as it was. -/
structure Dropped (l l' : Link) : Prop where
  isOpen : l'.isOpen = false
  store : l'.site.store = l.site.store

theorem Dropped.trans {l'' : Link} (h : Dropped l l') (h' : Dropped l' l'') : Dropped l l'' :=
  ⟨h'.isOpen, h'.store.trans h.store⟩

/-- Run over a link, the flow ends with a fault of the connection and leaves a dropped connection,
with the server as it was. -/
def Fails (m : Flow ServerInterface (Except Fault α)) (l : Link) : Prop :=
  ∃ text l', m.Yields answer l (.error (.io text)) l' ∧ Dropped l l'

theorem fails_ask (command : Command) (read : Conversion α) (h : l.isOpen = false) :
    Fails (Client.ask command read) l := by
  have hanswer : answer (.send command) l = ⟨.error (.io "broken pipe"), [], l⟩ := by
    rw [answer, if_neg (by rw [h]; decide)]
  refine ⟨"broken pipe", l, ⟨?_, ?_⟩, h, rfl⟩
  · simp only [Client.ask, run, hanswer]
    rfl
  · simp only [Client.ask, run, hanswer]

theorem Fails.bind {m : Flow ServerInterface (Except Fault α)}
    {f : Except Fault α → Flow ServerInterface (Except Fault β)} (h : Fails m l)
    (hf : ∀ text l', Dropped l l' → Fails (f (.error (.io text))) l') : Fails (m.bind f) l := by
  obtain ⟨text, l', hm, hl'⟩ := h
  obtain ⟨text', l'', hf, hl''⟩ := hf text l' hl'
  exact ⟨text', l'', hm.bind hf, hl'.trans hl''⟩

/-- What ends with a fault of the connection at once. -/
theorem fails_done (text : String) (h : l.isOpen = false) :
    Fails (.done (.error (.io text)) : Flow ServerInterface (Except Fault α)) l :=
  ⟨text, l, yields_done, h, rfl⟩

theorem fails_retry {attempt : Nat → Flow ServerInterface (Except Fault α)}
    (h : ∀ n l, l.isOpen = false → Fails (attempt n) l) (isRetriable : Fault → Bool)
    (complaint : Nat → Nat → Fault → Event) (left number : Nat) (delay : UInt64)
    (hl : l.isOpen = false) : Fails (retry attempt isRetriable complaint left number delay) l := by
  induction left generalizing number delay l with
  | zero => exact h number l hl
  | succ left ih =>
    refine (h number l hl).bind fun text l' hl' => ?_
    simp only
    split
    · let l'' : Link := (answer (.pause delay.toNat) l').state
      obtain ⟨text', l₃, hrest, hl₃⟩ := ih (l := l'') (number + 1) (nextDelay delay) hl'.isOpen
      exact ⟨text', l₃, ⟨hrest.result, hrest.state⟩, hl₃.isOpen, hl₃.store⟩
    · exact fails_done text hl'.isOpen

theorem fails_complain {m : Flow ServerInterface (Except Fault α)} (h : Fails m l)
    (purpose : Purpose) : Fails (m.bind (Client.complain purpose)) l :=
  h.bind fun text l' hl' => ⟨text, l', yields_done.log, hl'.isOpen, rfl⟩

theorem fails_runScript (key expected : String) (h : l.isOpen = false) :
    Fails (Client.runScript key expected) l :=
  (fails_ask _ _ h).bind fun text _ hl' => fails_done text hl'.isOpen

theorem fails_map {m : Flow ServerInterface (Except Fault α)} (h : Fails m l) (f : α → β) :
    Fails (m.map fun r => r.map f) l :=
  h.bind fun text _ hl' => fails_done text hl'.isOpen

/-- What failed is answered negatively. -/
theorem Fails.orElse {m : Flow ServerInterface (Except Fault α)} (h : Fails m l) (event : Event)
    (negative : α) :
    ∃ l', (m.bind (Redis.orElse event negative)).Yields answer l negative l' ∧ Dropped l l' := by
  obtain ⟨text, l', hm, hl'⟩ := h
  exact ⟨l', hm.bind yields_done.log, hl'⟩

theorem Fails.succeeded {m : Flow ServerInterface (Except Fault Unit)} (h : Fails m l)
    (event : Event) :
    ∃ l', (m.bind (Redis.succeeded event)).Yields answer l false l' ∧ Dropped l l' := by
  obtain ⟨text, l', hm, hl'⟩ := h
  exact ⟨l', hm.bind yields_done.log, hl'⟩

/-- The attempts of a command, with the complaint at their end. -/
theorem fails_execute (c : Client) (purpose : Purpose) (h : l.isOpen = false)
    {attempt : Flow ServerInterface (Except Fault α)}
    (hattempt : ∀ l : Link, l.isOpen = false → Fails attempt l) :
    Fails ((c.execute attempt).bind (Client.complain purpose)) l :=
  fails_complain (fails_retry (fun _ => hattempt) _ _ _ _ _ h) purpose

/-- **One call over a dropped connection** is answered negatively, whatever it is. -/
theorem yields_negative (c : Client) (call : StoreCall) (h : l.isOpen = false) :
    ∃ l', (storeFlow c call).Yields answer l call.negative l' ∧ Dropped l l' := by
  cases call with
  | set key value lifetime =>
    rw [storeFlow]
    split
    · obtain ⟨l', hrun, hl'⟩ :=
        (fails_execute c .setWithExpiry h fun _ => fails_ask _ anyReply).succeeded .storeWriteFailed
      exact ⟨l', hrun.log, hl'⟩
    · obtain ⟨l', hrun, hl'⟩ :=
        (fails_execute c .set h fun _ => fails_ask _ anyReply).succeeded .storeWriteFailed
      exact ⟨l', hrun.log, hl'⟩
  | get key => exact (fails_execute c .get h fun _ => fails_ask _ _).orElse _ _
  | contains key => exact (fails_execute c .probe h fun _ => fails_ask _ _).orElse _ _
  | delete key => exact (fails_map (fails_execute c .delete h fun _ => fails_ask _ _) _).orElse _ _
  | consume key expected =>
    exact (fails_map (fails_execute c .compareAndDelete h fun _ => fails_runScript _ _) _).orElse
      _ _

/-! ## Histories -/

/-- Calls over an open connection leave it open. -/
theorem isOpen_askAll (c : Client) (calls : List StoreCall) (h : l.isOpen = true) :
    ((askAll calls).run (perform c) l).state.isOpen = true :=
  run_keeps (fun l : Link => l.isOpen = true) (asksOnly_of_forall (fun _ => trivial) _)
    (fun call _ _ hl => (run_of_isOpen c call hl).2.1) h

/-- Calls over a dropped connection are all answered negatively. -/
theorem askAll_of_dropped (c : Client) (calls : List StoreCall) (h : l.isOpen = false) :
    (∀ x ∈ ((askAll calls).run (perform c) l).result, x.answer = x.question.negative)
      ∧ Dropped l ((askAll calls).run (perform c) l).state := by
  induction calls generalizing l with
  | nil => exact ⟨fun x hx => absurd hx List.not_mem_nil, h, rfl⟩
  | cons call calls ih =>
    obtain ⟨l', hrun, hl'⟩ := yields_negative c call h
    obtain ⟨hrest, hdropped⟩ := ih hl'.isOpen
    have hresult : (perform c call l).result = call.negative := hrun.result
    have hstate : (perform c call l).state = l' := hrun.state
    simp only [askAll, run, run_map, hresult, hstate]
    refine ⟨fun x hx => ?_, hl'.trans hdropped⟩
    rcases List.mem_cons.1 hx with rfl | hx
    · rfl
    · exact hrest x hx

/-- **A dropped connection stays dropped.** However many attempts the client makes and whatever was
called before, the calls after the drop are all answered negatively and do not reach the server. So
a call is answered as over the connection that was not dropped only if that answer is negative
too. -/
theorem dropped_stays_dropped (c : Client) (site : Clocked Server) (before after : List StoreCall) :
    let ready := ((askAll before).run (perform c) ⟨site, true⟩).state
    let dropped : Link := { ready with isOpen := false }
    let run := (askAll after).run (perform c) dropped
    ready.isOpen = true
      ∧ (∀ x ∈ run.result, x.answer = x.question.negative)
      ∧ run.state.isOpen = false ∧ run.state.site.store = ready.site.store
      ∧ ∀ call, (perform c call dropped).result = (perform c call ready).result
          ↔ (perform c call ready).result = call.negative := by
  intro ready dropped run
  obtain ⟨hanswers, hdropped⟩ := askAll_of_dropped (l := dropped) c after rfl
  refine ⟨isOpen_askAll c before rfl, hanswers, hdropped.isOpen, hdropped.store, fun call => ?_⟩
  obtain ⟨l', hrun, -⟩ := yields_negative (l := dropped) c call rfl
  have hresult : (perform c call dropped).result = call.negative := hrun.result
  rw [hresult]
  exact eq_comm

/-- A client that makes three attempts does not find a record that is there, although the server
would take a new connection and answer over it. -/
theorem dropped_although_server_would_answer :
    let ready := (perform ⟨3, 100⟩ (.set "k" "v" 60) ⟨⟨0, {}⟩, true⟩).state
    let dropped : Link := { ready with isOpen := false }
    let again := (answer (.dial ⟨.tcp "localhost" 6379, none, none, 0⟩ 5) dropped).state
    (perform ⟨3, 100⟩ (.contains "k") ready).result = true
      ∧ (perform ⟨3, 100⟩ (.contains "k") dropped).result = false
      ∧ (perform ⟨3, 100⟩ (.contains "k") again).result = true :=
  ⟨rfl, rfl, rfl⟩

end Link

end Redis

end Passcode
