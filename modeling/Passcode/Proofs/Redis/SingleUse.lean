import Mathlib.Tactic.Choose
import Passcode.Program.World
import Passcode.Proofs.Flow.Schedule
import Passcode.Proofs.Redis.Traffic

/-!
# A code is accepted at most once through Redis, whatever fails

Commands may be lost, refused, or executed without the client hearing of it, and the client repeats
them. Still an accepted check has had the server remove a record of its own, which held what was
submitted: a check is accepted only on the count that the script sends back, and a record is removed
once.

A command that is repeated may write a record again after it was used up. So one issuance may write
several records that are accepted, but not when its code is submitted only after the store has
answered it: from then on it sends no more commands.

## Main definitions

* `Redis.Contributes` — what a turn removed goes back to a call
* `Redis.StoreAnswered` — the store has answered an issuance
* `Redis.Removal` — how an accepted check came about

## Main statements

* `Redis.exists_write_of_removed` — the write that a removed record goes back to
* `Redis.ChecksFollow.of_ended` — checks that wait for an issuance to end follow it
* `Redis.lt_of_checksFollow` — what an issuance writes, it writes before the checks that follow it
* `Redis.accepted_checks_remove_own_records` — single use under every schedule and all failures
-/

namespace Passcode

namespace Service

/-- How issuing goes on once the store has answered. -/
def afterStore (s : Service) (identity : String) (code : Code) :
    Attempt Bool → Flow ServiceInterface Issuance
  | .done true => s.deliver identity code
  | .done false =>
    .log (.codeNotStored (Mask.identity identity)) <| .done (failure identity .storeError)
  | .panicked reason => afterPanic identity reason

/-- With a store, issuing asks the store and goes on with its answer. -/
theorem issue_eq_afterStore {s : Service} (hstore : s.hasStore = true) (identity : String)
    (code : Code) :
    s.issue identity code = .log (.codeGenerated (Mask.identity identity) s.variant)
      (.ask (.set (s.config.keyFor identity) code.text s.config.codeLifetime)
        (s.afterStore identity code)) := by
  rw [issue, if_pos hstore]
  congr 2
  funext answer
  rcases answer with (_ | _) | _ <;> rfl

/-- Once the store has answered, issuing may only send a message. -/
theorem asksOnly_afterStore (s : Service) (identity : String) (code : Code)
    (answer : Attempt Bool) :
    (s.afterStore identity code answer).AsksOnly fun q => ∃ m, q = ServiceCall.send m := by
  rcases answer with (_ | _) | _
  · trivial
  · refine ⟨⟨_, rfl⟩, fun fate => ?_⟩
    rcases fate with (_ | _) | _ <;> trivial
  · trivial

end Service

namespace Redis

variable {server : Server} {clock : Nat} {moves : List (Move Errand Chance Nat)} {p : Traffic}
  {i k m n : Nat} {e issue : Errand} {key submitted : String} {r : Record} {code : Code}

/-! ## Where a removed record comes from -/

/-- Between two turns nothing was done under a key. -/
def Untouched (p : Traffic) (key : String) (m n : Nat) : Prop :=
  ∀ (l : Nat) (d : Deed), m < l → l < n → p.state.deeds[l]? = some d → d.key? ≠ some key

/-- What turn `n` removed had been written by a turn of call `k`, and nothing was done under its key
in between. -/
def Contributes (p : Traffic) (k n : Nat) : Prop :=
  ∃ (key : String) (r : Record) (m : Nat) (t : Turn WorldInterface Ledger),
    p.state.deeds[n]? = some (.removed key r) ∧ p.turns[m]? = some t ∧ t.caller = k
      ∧ p.state.deeds[m]? = some (.wrote key r) ∧ m < n ∧ Untouched p key m n

/-- What a turn removed was present when the turn came. -/
theorem present_of_removed_deed (hs : p.state.Sound server p.turns)
    {t : Turn WorldInterface Ledger} (ht : p.turns[n]? = some t)
    (h : p.state.deeds[n]? = some (.removed key r)) :
    t.state.server.present? t.state.clock key = some r := by
  obtain ⟨-, chance, -, hdeed⟩ := hs.turn n t ht
  obtain ⟨c, -, hexecuted⟩ :=
    Ledger.executed_of_deed (Option.some.inj (hdeed.symm.trans h)) nofun
  exact Server.present_of_removed hexecuted

/-- **The write that a removed record goes back to**, unless the record was there from the start. -/
theorem exists_write_of_removed (hs : arena.Shared (fun turns l => l.Sound server turns) p)
    (h : p.state.deeds[n]? = some (.removed key r)) :
    (∃ m < n, p.state.deeds[m]? = some (.wrote key r) ∧ Untouched p key m n)
      ∨ server.find? key = some r
        ∧ ∀ (l : Nat) (d : Deed), l < n → p.state.deeds[l]? = some d → d.key? ≠ some key := by
  have hn : n < p.turns.length := hs.now.length ▸ (List.getElem?_eq_some_iff.1 h).1
  have ht : p.turns[n]? = some p.turns[n] := List.getElem?_eq_getElem hn
  have hheld := Server.find?_of_present? (present_of_removed_deed hs.now ht h)
  -- The records came about by the deeds before turn `n`.
  rw [(hs.before n _ ht).records, (hs.now.turn n _ ht).1] at hheld
  rcases Deed.exists_wrote_of_replay hheld with ⟨m, hm, hlater⟩ | ⟨hfirst, hnone⟩
  · have hmn : m < n := by
      have hlength := (List.getElem?_eq_some_iff.1 hm).1
      rw [List.length_take] at hlength
      omega
    rw [List.getElem?_take_of_lt hmn] at hm
    refine .inl ⟨m, hmn, hm, fun l d hml hln hd => hlater l d hml ?_⟩
    rwa [List.getElem?_take_of_lt hln]
  · refine .inr ⟨hfirst, fun l d hln hd => hnone l d ?_⟩
    rwa [List.getElem?_take_of_lt hln]

/-- A turn that wrote a record is that of an issuance of what it wrote. -/
theorem issue_of_wrote_deed (hp : arena.Traced p) (hs : p.state.Sound server p.turns)
    {t : Turn WorldInterface Ledger} (ht : p.turns[m]? = some t)
    (h : p.state.deeds[m]? = some (.wrote key r)) :
    ∃ e identity code, p.call? t.caller = some e ∧ e.request = .issue identity code
      ∧ e.key = key ∧ code.text = r.value := by
  obtain ⟨-, chance, -, hdeed⟩ := hs.turn m t ht
  exact issue_of_wrote hp (List.mem_of_getElem? ht) (Option.some.inj (hdeed.symm.trans h))

/-- What an issuance wrote is its code under its key. -/
theorem eq_of_wrote_deed (hp : arena.Traced p) (hs : p.state.Sound server p.turns)
    {t : Turn WorldInterface Ledger} (ht : p.turns[m]? = some t)
    (h : p.state.deeds[m]? = some (.wrote key r)) (hissue : p.call? t.caller = some issue)
    {identity : String} (hrequest : issue.request = .issue identity code) :
    issue.key = key ∧ code.text = r.value := by
  obtain ⟨e, identity', code', he, hrequest', hkey, htext⟩ := issue_of_wrote_deed hp hs ht h
  obtain rfl := Option.some.inj (hissue.symm.trans he)
  obtain ⟨-, rfl⟩ := ServiceRequest.issue.inj (hrequest.symm.trans hrequest')
  exact ⟨hkey, htext⟩

/-! ## Checks that follow the store's answer -/

/-- The store has answered issuance `k`: what is left of it comes after the answer. -/
def StoreAnswered (p : Traffic) (k : Nat) : Prop :=
  ∃ e identity code answer asked rest, e.request = .issue identity code
    ∧ p.calls[k]? = some (e, rest)
    ∧ (e.backing.assemble
        ((e.service.afterStore identity code answer).map .issued)).Leads asked rest

/-- Every check that submits the code of issuance `k` under its key is started only after the store
has answered the issuance. -/
def ChecksFollow (server : Server) (clock : Nat) (moves : List (Move Errand Chance Nat)) (k : Nat)
    (issue : Errand) (code : Code) : Prop :=
  ∀ before check after identity, moves = before ++ .start check :: after →
    check.key = issue.key → check.request = .check identity code.text →
    StoreAnswered (arena.run { state := { server, clock } } before) k

/-- An issuance that has ended has been answered by the store. -/
theorem StoreAnswered.of_ended (hp : arena.Traced p) {identity : String}
    (hrequest : issue.request = .issue identity code) {response : ServiceResponse}
    (h : p.Ended k issue response) : StoreAnswered p k := by
  obtain ⟨asked, hleads⟩ : ∃ asked, issue.flow.Leads asked (.done response) :=
    ⟨_, hp.leads k issue _ h⟩
  rw [Errand.flow, hrequest, Service.flow, Service.issue_eq_afterStore rfl] at hleads
  cases hleads with
  | log hleads =>
    obtain ⟨answer, _, later, -, -, hrest⟩ := hleads.of_bind_done
    exact ⟨issue, identity, code, answer, later, .done response, hrequest, h, hrest⟩

/-- Checks that are started only after an issuance has ended follow it. -/
theorem ChecksFollow.of_ended {identity : String}
    (hrequest : issue.request = .issue identity code)
    (h : ∀ before check after identity, moves = before ++ .start check :: after →
      check.key = issue.key → check.request = .check identity code.text →
      ∃ response, (arena.run { state := { server, clock } } before).Ended k issue response) :
    ChecksFollow server clock moves k issue code := by
  intro before check after checked hmoves hkey hcheck
  obtain ⟨response, hended⟩ := h before check after checked hmoves hkey hcheck
  exact .of_ended (Arena.traced_run _ before) hrequest hended

/-- After the store's answer an issuance sends no more commands. -/
theorem StoreAnswered.asksOnly (h : StoreAnswered p k) :
    ∃ e rest, p.calls[k]? = some (e, rest) ∧ rest.AsksOnly ForChannel := by
  obtain ⟨e, identity, code, answer, asked, rest, -, hcall, hleads⟩ := h
  refine ⟨e, rest, hcall, hleads.asksOnly_rest ?_⟩
  refine Flow.asksOnly_interpret
    (Flow.asksOnly_map (e.service.asksOnly_afterStore identity code answer)) fun q hq => ?_
  obtain ⟨m, rfl⟩ := hq
  exact Flow.asksOnly_map (asksOnly_send e.channel m)

/-- **What an issuance writes, it writes before** the checks that follow it remove anything. -/
theorem lt_of_checksFollow (hp : p = arena.run { state := { server, clock } } moves)
    (hs : p.state.Sound server p.turns) (hfollow : ChecksFollow server clock moves k issue code)
    {written removed : Turn WorldInterface Ledger} (hm : p.turns[m]? = some written)
    (hwriter : written.caller = k) (hwrote : p.state.deeds[m]? = some (.wrote key r))
    (hn : p.turns[n]? = some removed) (hcheck : p.call? removed.caller = some e)
    (hkey : e.key = issue.key) {identity : String}
    (hrequest : e.request = .check identity code.text) : m < n := by
  subst hp
  obtain ⟨before, after, rfl, hlength⟩ := Arena.exists_start hcheck
  obtain ⟨_, _, hrest, hasks⟩ :=
    (hfollow before e after identity rfl hkey hrequest).asksOnly
  have hle := Arena.length_le_of_turn hn (Nat.le_of_eq hlength)
  refine Nat.lt_of_lt_of_le (Nat.lt_of_not_le fun hafter => ?_) hle
  -- A turn of the issuance that comes later is for its channel, and writes nothing.
  have hlater := Arena.asksOnly_later (a := arena) hrest hasks (.start e :: after) hafter
    (by rwa [← Arena.run_append]) hwriter
  obtain ⟨-, chance, -, hdeed⟩ := hs.turn m _ hm
  obtain ⟨c, hquestion, -⟩ :=
    Ledger.executed_of_deed (Option.some.inj (hdeed.symm.trans hwrote)) nofun
  rw [hquestion] at hlater
  exact hlater

/-! ## Single use -/

/-- How an accepted check came about: turn `n` is its own, and removed a record that held what was
submitted; that record was written for an issuance of the same code under the same key, or it was
there from the start. -/
structure Removal (server : Server) (p : Traffic) (i : Nat) (e : Errand) (submitted : String)
    (n : Nat) : Prop where
  removed : ∃ t r, p.turns[n]? = some t ∧ t.caller = i
    ∧ t.state.server.present? t.state.clock e.key = some r ∧ r.value = submitted
    ∧ p.state.deeds[n]? = some (.removed e.key r)
  origin : (∃ k issue identity code, p.call? k = some issue
        ∧ issue.request = .issue identity code ∧ issue.key = e.key ∧ code.text = submitted
        ∧ Contributes p k n)
    ∨ ∃ r, server.find? e.key = some r ∧ r.value = submitted
        ∧ ∀ (l : Nat) (d : Deed), l < n → p.state.deeds[l]? = some d → d.key? ≠ some e.key

theorem exists_removal_of_accepted (hp : arena.Traced p)
    (hs : arena.Shared (fun turns l => l.Sound server turns) p) (h : Accepted p i e submitted) :
    ∃ n, Removal server p i e submitted n := by
  obtain ⟨n, t, r, hn, hcaller, hremoved, hvalue⟩ := removed_of_accepted hp hs.now h
  have hpresent := present_of_removed_deed hs.now hn hremoved
  refine ⟨n, ⟨t, r, hn, hcaller, hpresent, hvalue, hremoved⟩, ?_⟩
  rcases exists_write_of_removed hs hremoved with ⟨m, hmn, hm, huntouched⟩ | ⟨hfirst, hnone⟩
  · have hlt : m < p.turns.length := hs.now.length ▸ (List.getElem?_eq_some_iff.1 hm).1
    have hwritten : p.turns[m]? = some p.turns[m] := List.getElem?_eq_getElem hlt
    obtain ⟨issue, identity, code, hissue, hrequest, hkey, htext⟩ :=
      issue_of_wrote_deed hp hs.now hwritten hm
    exact .inl ⟨_, issue, identity, code, hissue, hrequest, hkey, htext.trans hvalue,
      e.key, r, m, _, hremoved, hwritten, rfl, hm, hmn, huntouched⟩
  · exact .inr ⟨r, hfirst, hvalue, hnone⟩

/-- One turn explains an accepted check, whatever it is said to have been a check of. -/
theorem exists_removal (hp : arena.Traced p)
    (hs : arena.Shared (fun turns l => l.Sound server turns) p) (i : Nat) :
    ∃ n, ∀ e submitted, Accepted p i e submitted → Removal server p i e submitted n := by
  by_cases hi : ∃ e submitted, Accepted p i e submitted
  · obtain ⟨e, submitted, h⟩ := hi
    obtain ⟨n, hn⟩ := exists_removal_of_accepted hp hs h
    refine ⟨n, fun e' submitted' h' => ?_⟩
    -- A call is a check of one thing only.
    obtain rfl := Option.some.inj (h.ended.call?.symm.trans h'.ended.call?)
    obtain ⟨identity, hrequest⟩ := h.request
    obtain ⟨identity', hrequest'⟩ := h'.request
    obtain ⟨-, rfl⟩ := ServiceRequest.check.inj (hrequest.symm.trans hrequest')
    exact hn
  · exact ⟨0, fun e submitted h => absurd ⟨e, submitted, h⟩ hi⟩

/-- A turn belongs to one check. -/
theorem Removal.caller_inj {j : Nat} {e' : Errand} {submitted' : String}
    (h : Removal server p i e submitted n) (h' : Removal server p j e' submitted' n) : i = j := by
  obtain ⟨t, -, ht, rfl, -⟩ := h.removed
  obtain ⟨t', -, ht', rfl, -⟩ := h'.removed
  rw [Option.some.inj (ht.symm.trans ht')]

/-- Of two removals of what one issuance wrote, none comes first, when the checks follow it. -/
theorem not_lt_of_contributes (hp : p = arena.run { state := { server, clock } } moves)
    (hs : p.state.Sound server p.turns) {identity : String} (hissue : p.call? k = some issue)
    (hrequest : issue.request = .issue identity code)
    (hfollow : ChecksFollow server clock moves k issue code) (h : Accepted p i e submitted)
    (hr : Removal server p i e submitted n) {n' : Nat} (hn : Contributes p k n)
    (hn' : Contributes p k n') : ¬ n < n' := by
  intro hlt
  have htraced : arena.Traced p := hp ▸ Arena.traced_run _ moves
  obtain ⟨key, r, m, written, hremoved, hm, rfl, hwrote, -, -⟩ := hn
  obtain ⟨key', r', m', written', -, hm', hwriter, hwrote', -, huntouched⟩ := hn'
  obtain ⟨t, r₀, ht, rfl, -, hvalue, hremoved₀⟩ := hr.removed
  obtain ⟨hkey₀, hr₀⟩ := Deed.removed.inj (Option.some.inj (hremoved₀.symm.trans hremoved))
  -- Both writes are of the one record that the issuance writes.
  obtain ⟨hkey, htext⟩ := eq_of_wrote_deed htraced hs hm hwrote hissue hrequest
  obtain ⟨hkey', -⟩ := eq_of_wrote_deed htraced hs hm' hwrote' (hwriter ▸ hissue) hrequest
  obtain ⟨checked, hchecked⟩ := h.request
  have hsubmitted : submitted = code.text := by rw [← hvalue, hr₀, ← htext]
  have hlast : m' < n := lt_of_checksFollow hp hs hfollow hm' hwriter hwrote' ht h.ended.call?
    (hkey₀.trans hkey.symm) (hsubmitted ▸ hchecked)
  refine huntouched n _ hlast hlt hremoved ?_
  exact congrArg some (hkey.symm.trans hkey')

/-- **Single use, whatever fails.** Errands issue and check codes over one server, under every
schedule, every fate of every command and any number of attempts. Every accepted check has had the
server remove a record of its own, which held what was submitted. When the code of an issuance is
submitted only after the store has answered it, at most one check is accepted on what it wrote. -/
theorem accepted_checks_remove_own_records (server : Server) (clock : Nat)
    (moves : List (Move Errand Chance Nat)) :
    let p := arena.run { state := { server, clock } } moves
    ∃ removal : Nat → Nat,
      (∀ i e submitted, Accepted p i e submitted → Removal server p i e submitted (removal i))
      ∧ (∀ i j e e' submitted submitted', Accepted p i e submitted → Accepted p j e' submitted' →
          removal i = removal j → i = j)
      ∧ ∀ k issue identity code, p.call? k = some issue → issue.request = .issue identity code →
          ChecksFollow server clock moves k issue code →
          ∀ i j e e' submitted submitted', Accepted p i e submitted → Accepted p j e' submitted' →
            Contributes p k (removal i) → Contributes p k (removal j) → i = j := by
  intro p
  have hp : arena.Traced p := Arena.traced_run _ moves
  have hs := sound_run server clock moves
  choose removal hremoval using exists_removal hp hs
  have hinj : ∀ i j e e' submitted submitted', Accepted p i e submitted →
      Accepted p j e' submitted' → removal i = removal j → i = j := by
    intro i j e e' submitted submitted' hi hj hij
    exact (hremoval i e submitted hi).caller_inj (hij ▸ hremoval j e' submitted' hj)
  refine ⟨removal, hremoval, hinj, ?_⟩
  intro k issue identity code hissue hrequest hfollow i j e e' submitted submitted' hi hj hci hcj
  refine hinj i j e e' submitted submitted' hi hj (Nat.le_antisymm ?_ ?_)
  · exact Nat.le_of_not_lt (not_lt_of_contributes rfl hs.now hissue hrequest hfollow hj
      (hremoval j e' submitted' hj) hcj hci)
  · exact Nat.le_of_not_lt (not_lt_of_contributes rfl hs.now hissue hrequest hfollow hi
      (hremoval i e submitted hi) hci hcj)

-- A check that comes between a write whose reply was lost and its repetition uses the code up, and
-- another one uses it up again.
example :
    let issue : Errand := ⟨⟨2, 100⟩, .mock, {}, .issue "a" (Code.ofDraw 0)⟩
    let check : Errand := ⟨⟨2, 100⟩, .mock, {}, .check "a" "100000"⟩
    let meets (fate : Fate) : Chance := ⟨fate, fun q => (World.answer q {}).result⟩
    let p := arena.run { state := { server := ⟨{}, true⟩, clock := 0 } } <|
      [.start issue] ++ List.replicate 3 (.proceed 0 (meets (.unheard "broken pipe")))
      ++ [.start check] ++ List.replicate 4 (.proceed 1 (meets .answered))
      ++ List.replicate 3 (.proceed 0 (meets .answered))
      ++ [.start check] ++ List.replicate 4 (.proceed 2 (meets .answered))
    Accepted p 1 check "100000" ∧ Accepted p 2 check "100000" :=
  ⟨⟨rfl, "a", rfl⟩, rfl, "a", rfl⟩

end Redis

end Passcode
