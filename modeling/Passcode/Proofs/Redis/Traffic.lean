import Passcode.Program.Assembly
import Passcode.Proofs.Flow.Pool
import Passcode.Proofs.Redis.Attempts
import Passcode.Proofs.Redis.Fate
import Passcode.Proofs.Service.Traffic

/-!
# Concurrent requests over one Redis server

Requests to issue and to check codes are in progress at the same time, each through a client of its
own, over one server. Every command meets a fate of its own; the faults that come of it are met by
the client with further attempts, which are further commands. Between any two questions time may
pass and other requests may go on.

With the server goes a ledger of the deeds, one for each question that was answered. No request sees
it. It is what the trace of a request cannot tell: which of the commands whose reply was lost were
executed.

## Main definitions

* `Deed.replay` — what deeds make of the record under a key
* `Ledger` — a server under a clock, with the deeds so far
* `Errand` — a request through a client of its own
* `Redis.arena` — errands over one server

## Main statements

* `Deed.exists_wrote_of_replay` — a record is there from the start, or the last deed under its key
  wrote it
* `sound_run` — the ledger tells truly what was done, and the records are what it makes of the first
* `Errand.asksOnly_flow` — what an errand may ask
* `issue_of_wrote` — only an issuance writes, and only its own code under its own key
* `removed_of_accepted` — an accepted check had the server remove a record that held what was
  submitted
-/

namespace Passcode.Redis

/-! ## What deeds leave -/

namespace Deed

variable {deeds : List Deed} {key : String} {r : Record} {first : Option Record}

/-- What deeds, one after another, make of what is under a key. -/
def replay (deeds : List Deed) (key : String) (first : Option Record) : Option Record :=
  deeds.foldl (fun r d => d.leaves key r) first

theorem replay_concat (deeds : List Deed) (d : Deed) (key : String) (first : Option Record) :
    replay (deeds ++ [d]) key first = d.leaves key (replay deeds key first) := by
  simp [replay]

/-- What is under a key after a deed was written by it, or was there before and left alone. -/
theorem wrote_or_of_leaves {d : Deed} (h : d.leaves key first = some r) :
    d = .wrote key r ∨ first = some r ∧ d.key? ≠ some key := by
  cases d with
  | none => exact .inr ⟨h, nofun⟩
  | wrote k r' =>
    by_cases hk : k = key
    · subst hk
      rw [leaves, if_pos rfl] at h
      rw [Option.some.inj h]
      exact .inl rfl
    · rw [leaves, if_neg hk] at h
      exact .inr ⟨h, fun hkey => hk (Option.some.inj hkey)⟩
  | removed k r' =>
    by_cases hk : k = key
    · rw [leaves, if_pos hk] at h
      cases h
    · rw [leaves, if_neg hk] at h
      exact .inr ⟨h, fun hkey => hk (Option.some.inj hkey)⟩

/-- **Where a record comes from.** It is there from the start, or the last deed under its key wrote
it. -/
theorem exists_wrote_of_replay (h : replay deeds key first = some r) :
    (∃ m : Nat, deeds[m]? = some (.wrote key r)
        ∧ ∀ (l : Nat) (d : Deed), m < l → deeds[l]? = some d → d.key? ≠ some key)
      ∨ first = some r ∧ ∀ (l : Nat) (d : Deed), deeds[l]? = some d → d.key? ≠ some key := by
  induction deeds generalizing first with
  | nil => exact .inr ⟨h, fun l d hd => by simp at hd⟩
  | cons d deeds ih =>
    rcases ih h with ⟨m, hm, hlater⟩ | ⟨hd, hlater⟩
    · refine .inl ⟨m + 1, hm, fun l d' hml hl => ?_⟩
      cases l with
      | zero => omega
      | succ l => exact hlater l d' (by omega) hl
    · rcases wrote_or_of_leaves hd with rfl | ⟨hfirst, hkey⟩
      · refine .inl ⟨0, rfl, fun l d' hml hl => ?_⟩
        cases l with
        | zero => omega
        | succ l => exact hlater l d' hl
      · refine .inr ⟨hfirst, fun l d' hl => ?_⟩
        cases l with
        | zero => exact Option.some.inj hl ▸ hkey
        | succ l => exact hlater l d' hl

end Deed

/-! ## The server and its ledger -/

/-- A server under a clock, with what each question answered so far did to its records. -/
structure Ledger where
  server : Server
  /-- The time in milliseconds. -/
  clock : Nat
  deeds : List Deed := []

/-- What chance decides when a question is answered: the fate of a command, and the answer to what
is not for the server. -/
structure Chance where
  fate : Fate
  others : (q : WorldCall) → q.Answer

namespace Ledger

variable {chance : Chance} {l : Ledger} {q : WorldCall}

/-- What the answer to a question does to the records. -/
def deed (chance : Chance) (l : Ledger) : WorldCall → Deed
  | .server (.send c) => l.server.deedOf l.clock c chance.fate
  | _ => .none

/-- Answer a question. Commands meet their fate at the server; all else is left to chance. A pause
is one of the moments at which time may pass. -/
def answer (chance : Chance) : Flow.Surroundings WorldInterface Ledger
  | .server (.send c), l =>
    let (reply, server) := l.server.meet l.clock c chance.fate
    ⟨reply, [], { l with server, deeds := l.deeds ++ [l.deed chance (.server (.send c))] }⟩
  | q, l => ⟨chance.others q, [], { l with deeds := l.deeds ++ [l.deed chance q] }⟩

theorem deeds_answer (chance : Chance) (q : WorldCall) (l : Ledger) :
    (answer chance q l).state.deeds = l.deeds ++ [l.deed chance q] := by
  rcases q with (_ | _ | _) | _ | _ | _ | _ | _ <;> rfl

theorem find?_answer (chance : Chance) (q : WorldCall) (l : Ledger) (key : String) :
    (answer chance q l).state.server.find? key
      = (l.deed chance q).leaves key (l.server.find? key) := by
  rcases q with (_ | c | _) | _ | _ | _ | _ | _
  · rfl
  · exact Server.find?_meet c chance.fate key
  all_goals rfl

/-- The command of a deed, and that it was executed. -/
theorem executed_of_deed {d : Deed} (h : l.deed chance q = d) (hd : d ≠ .none) :
    ∃ c, q = .server (.send c) ∧ l.server.deed l.clock c = d := by
  rcases q with (_ | c | _) | _ | _ | _ | _ | _
  case send =>
    refine ⟨c, rfl, ?_⟩
    rw [deed, Server.deedOf] at h
    split at h
    · exact h
    · exact absurd h.symm hd
  all_goals exact absurd h.symm hd

end Ledger

/-! ## Errands -/

/-- A request through a client of its own. -/
structure Errand where
  client : Client
  channel : Channel
  config : ServiceConfig
  request : ServiceRequest

namespace Errand

/-- What stands behind the service of an errand. -/
def backing (e : Errand) : Backing := ⟨some (.redis e.client), e.channel⟩

/-- The service of an errand. -/
def service (e : Errand) : Service := e.backing.service e.config

/-- The key that an errand is about. -/
def key (e : Errand) : String := e.config.keyFor e.request.identity

/-- The flow of an errand. -/
def flow (e : Errand) : Flow WorldInterface ServiceResponse :=
  e.backing.assemble (e.service.flow e.request)

end Errand

/-- Errands over one server. From outside, time passes. -/
def arena : Arena WorldInterface Errand ServiceResponse Ledger Chance Nat where
  flow := Errand.flow
  answer := Ledger.answer
  change millis l := { l with clock := l.clock + millis }

/-- Errands in progress. -/
abbrev Traffic := Pool WorldInterface Errand ServiceResponse Ledger

/-! ## The ledger tells truly -/

/-- One deed for each turn, the one that the answer did, and the records are what the deeds make of
those at first. -/
structure Ledger.Sound (first : Server) (turns : List (Turn WorldInterface Ledger)) (l : Ledger) :
    Prop where
  length : l.deeds.length = turns.length
  records : ∀ key, l.server.find? key = Deed.replay l.deeds key (first.find? key)
  turn : ∀ n t, turns[n]? = some t → t.state.deeds = l.deeds.take n
    ∧ ∃ chance, t.exchange.answer = (Ledger.answer chance t.exchange.question t.state).result
      ∧ l.deeds[n]? = some (t.state.deed chance t.exchange.question)

theorem Ledger.Sound.answer {first : Server} {turns : List (Turn WorldInterface Ledger)}
    {l : Ledger} (h : l.Sound first turns) (i : Nat) (q : WorldCall) (chance : Chance) :
    (Ledger.answer chance q l).state.Sound first
      (turns ++ [⟨i, l, ⟨q, (Ledger.answer chance q l).result⟩⟩]) where
  length := by simp [deeds_answer, h.length]
  records key := by rw [find?_answer, deeds_answer, Deed.replay_concat, h.records]
  turn := by
    intro n t ht
    rw [deeds_answer]
    rcases getElem?_concat_cases ht with ht | ⟨rfl, rfl⟩
    · have hn : n < l.deeds.length := h.length ▸ (List.getElem?_eq_some_iff.1 ht).1
      rw [List.take_append_of_le_length (Nat.le_of_lt hn), List.getElem?_append_left hn]
      exact h.turn n t ht
    · rw [← h.length, List.take_left]
      exact ⟨rfl, chance, rfl, List.getElem?_concat_length⟩

theorem keeps_sound (first : Server) : arena.Keeps (fun turns l => l.Sound first turns) where
  change _ _ _ h := ⟨h.length, h.records, h.turn⟩
  answer _ _ i q chance h := h.answer i q chance

/-- **The ledger tells truly** after every schedule, and told truly whenever a question was
answered. -/
theorem sound_run (server : Server) (clock : Nat) (moves : List (Move Errand Chance Nat)) :
    arena.Shared (fun turns l => l.Sound server turns)
      (arena.run { state := { server, clock } } moves) :=
  Arena.shared_run (keeps_sound server) ⟨rfl, fun _ => rfl, fun n t ht => by simp at ht⟩ moves

/-! ## What an errand may ask -/

/-- A question for a channel. -/
def ForChannel : WorldCall → Prop
  | .post _ | .relay _ => True
  | _ => False

theorem asksOnly_send (c : Channel) (m : Message) : (c.send m).AsksOnly ForChannel := by
  cases c with
  | mock => exact ⟨trivial, fun _ => trivial⟩
  | relay r =>
    exact Flow.asksOnly_interpret (Flow.asksOnly_of_forall (fun _ => trivial) (r.send m))
      fun _ _ => ⟨trivial, fun _ => trivial⟩

/-- What an errand may ask: what its calls of the store ask of the server, and what its channel
asks. -/
inductive Errand.Asks (e : Errand) : WorldCall → Prop
  | store {q : ServiceCall} {call : StoreCall} {question : Question}
      (hq : e.service.RequestAsks e.request q) (hcall : q.store? = some call)
      (h : call.Asks question) : Asks e (.server question)
  | channel {q : WorldCall} (h : ForChannel q) : Asks e q

theorem Errand.asksOnly_answer (e : Errand) {q : ServiceCall}
    (hq : e.service.RequestAsks e.request q) : (e.backing.answer q).AsksOnly e.Asks := by
  have hstore : ∀ call, q.store? = some call →
      ((OpenStore.redis e.client).perform call).AsksOnly e.Asks := fun call hcall =>
    Flow.asksOnly_interpret (asksOnly_storeFlow e.client call)
      fun _ h => ⟨.store hq hcall h, fun _ => trivial⟩
  cases q with
  | set key value lifetime => exact Flow.asksOnly_map (hstore _ rfl)
  | get key => exact hstore _ rfl
  | contains key => exact hstore _ rfl
  | consume key expected => exact hstore _ rfl
  | send m => exact Flow.asksOnly_map ((asksOnly_send e.channel m).mono fun _ => .channel)

theorem Errand.asksOnly_flow (e : Errand) : e.flow.AsksOnly e.Asks :=
  Flow.asksOnly_interpret (e.service.asksOnly_flow e.request) fun _ hq => e.asksOnly_answer hq

/-- A record is written for a call that keeps a value under a key. -/
theorem set_of_wrote {call : StoreCall} {c : Command} {s : Server} {now : Nat} {key : String}
    {r : Record} (hc : call.Sends c) (h : s.deed now c = .wrote key r) :
    ∃ lifetime, call = .set key r.value lifetime := by
  have hwrites := Server.value_of_wrote h
  cases call with
  | set k value lifetime =>
    refine ⟨lifetime, ?_⟩
    rw [show c = _ from hc] at hwrites
    split at hwrites
    · rcases hwrites with hset | ⟨seconds, hset⟩
      · cases hset
      · obtain ⟨rfl, -, rfl⟩ := Command.setex.inj hset
        rfl
    · rcases hwrites with hset | ⟨seconds, hset⟩
      · obtain ⟨rfl, rfl⟩ := Command.set.inj hset
        rfl
      · cases hset
  | get k | contains k | delete k =>
    rw [show c = _ from hc] at hwrites
    rcases hwrites with hset | ⟨seconds, hset⟩ <;> cases hset
  | consume k expected =>
    rcases hc with rfl | rfl <;> rcases hwrites with hset | ⟨seconds, hset⟩ <;> cases hset

/-- Only an issuance writes, and only its own code under its own key. -/
theorem issue_of_wrote {p : Traffic} (hp : arena.Traced p) {t : Turn WorldInterface Ledger}
    (ht : t ∈ p.turns) {chance : Chance} {key : String} {r : Record}
    (h : t.state.deed chance t.exchange.question = .wrote key r) :
    ∃ e identity code, p.call? t.caller = some e ∧ e.request = .issue identity code
      ∧ e.key = key ∧ code.text = r.value := by
  obtain ⟨c, hquestion, hdeed⟩ := Ledger.executed_of_deed h nofun
  obtain ⟨e, he, hasks⟩ := hp.asksOnly ht Errand.asksOnly_flow
  rw [hquestion] at hasks
  cases hasks with
  | channel h => exact h.elim
  | store hq hcall h =>
    cases h with
    | send hsends =>
      obtain ⟨lifetime, rfl⟩ := set_of_wrote hsends hdeed
      obtain ⟨client, channel, config, request⟩ := e
      cases request with
      | issue identity code =>
        rcases hq with rfl | rfl
        · obtain ⟨hkey, hvalue, -⟩ := StoreCall.set.inj (Option.some.inj hcall)
          exact ⟨_, identity, code, he, rfl, hkey, hvalue⟩
        · cases hcall
      | check identity submitted =>
        rcases hq with rfl | rfl | rfl <;> cases hcall

/-! ## Accepted checks -/

/-- A check of a submitted code that ended with its acceptance. -/
structure Accepted (p : Traffic) (i : Nat) (e : Errand) (submitted : String) : Prop where
  ended : p.Ended i e (.checked (.ok .accepted))
  request : ∃ identity, e.request = .check identity submitted

/-- The answer to a call of the store, from the trace of the flow that answers it. -/
theorem leads_perform {c : Client} {call : StoreCall} {asked : List (Exchange WorldInterface)}
    {a : call.Answer} (h : ((OpenStore.redis c).perform call).Leads asked (.done a)) :
    ∃ xs, (storeFlow c call).Leads xs (.done a)
      ∧ ∀ x ∈ xs, (⟨.server x.question, x.answer⟩ : Exchange WorldInterface) ∈ asked := by
  obtain ⟨xs, hxs, hparts⟩ := Flow.Leads.of_interpret_done h
  refine ⟨xs, hxs, fun x hx => ?_⟩
  obtain ⟨ys, hys, hx⟩ := hparts x hx
  cases hx with
  | ask answer hx =>
    obtain ⟨rfl, hanswer⟩ := Flow.leads_done_iff.1 hx
    exact hys _ (Flow.done.inj hanswer ▸ List.mem_cons_self)

/-- The script that an accepted check had counted a removal. -/
theorem counted_of_accepted {p : Traffic} (hp : arena.Traced p) {i : Nat} {e : Errand}
    {submitted : String} (h : Accepted p i e submitted) :
    ∃ (reply : Reply) (n : UInt32), asUInt32 reply = .ok n ∧ n > 0
      ∧ (⟨.server (.send (.runScript e.key submitted)), .ok reply⟩ : Exchange WorldInterface)
        ∈ p.asked i := by
  obtain ⟨hended, identity, hrequest⟩ := h
  obtain ⟨client, channel, config, request⟩ := e
  obtain rfl : request = .check identity submitted := hrequest
  obtain ⟨xs, hxs, hparts⟩ := Flow.Leads.of_interpret_done (hp.leads i _ _ hended)
  obtain ⟨result, hresult, hcheck⟩ := hxs.of_map_done
  obtain rfl : result = .ok .accepted := ServiceResponse.checked.inj hresult
  rw [Service.leads_check_accepted hcheck] at hparts
  obtain ⟨ys, hys, hconsumed⟩ := hparts
    ⟨.consume (config.keyFor identity) submitted, true⟩ (by simp [Errand.service, Backing.service])
  obtain ⟨zs, hzs, hmem⟩ := leads_perform hconsumed
  obtain ⟨reply, n, hreply, hpos, hcounted⟩ := leads_consume_true hzs
  exact ⟨reply, n, hreply, hpos, hys _ (hmem _ hcounted)⟩

/-- **An accepted check had the server remove a record**, in a turn of its own, which held what was
submitted. -/
theorem removed_of_accepted {first : Server} {p : Traffic} (hp : arena.Traced p)
    (hs : p.state.Sound first p.turns) {i : Nat} {e : Errand} {submitted : String}
    (h : Accepted p i e submitted) :
    ∃ (n : Nat) (t : Turn WorldInterface Ledger) (r : Record), p.turns[n]? = some t
      ∧ t.caller = i ∧ p.state.deeds[n]? = some (.removed e.key r) ∧ r.value = submitted := by
  obtain ⟨reply, n, hreply, hpos, hcounted⟩ := counted_of_accepted hp h
  obtain ⟨t, ht, hcaller, hexchange⟩ := Pool.exists_turn_of_asked hcounted
  obtain ⟨m, hm⟩ := List.mem_iff_getElem?.1 ht
  obtain ⟨-, chance, hanswer, hdeed⟩ := hs.turn m t hm
  obtain ⟨caller, l, exchange⟩ := t
  obtain rfl : exchange = _ := hexchange
  obtain ⟨hfate, hexecuted⟩ := Server.answered_of_meet hanswer.symm
  obtain ⟨r, hremoved, hvalue⟩ := Server.removed_of_count hexecuted hreply hpos
  refine ⟨m, _, r, hm, hcaller, ?_, hvalue⟩
  rw [hdeed, Ledger.deed, Server.deedOf, hfate]
  exact congrArg some hremoved

end Passcode.Redis
