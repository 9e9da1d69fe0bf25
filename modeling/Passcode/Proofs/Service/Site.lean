import Passcode.Proofs.Flow.Trace
import Passcode.Proofs.Store.Vault
import Passcode.Service.Basic

/-!
# A service at work over a vault

A *site* is what a service works with: a vault, a clock, and the messages that its channel has
accepted. The channel is foreign; what becomes of a message is given from outside, message by
message.

## Main definitions

* `Site` — vault, clock and accepted messages
* `Site.answer` — a question of the service answered at the site
* `Service.IssueTrace`, `Service.CheckTrace` — the ways in which a request can end

## Main statements

* `ServiceConfig.keyFor_inj` — different identities have different keys
* `Service.asksOnly_issue`, `asksOnly_check` — what the two flows may ask
* `Service.leads_check_accepted` — the only trace of an accepted check
* `Service.issueTrace_of_leads`, `checkTrace_of_leads` — with a store, either comes by one of five
  traces
-/

namespace Passcode

/-- What a service works with. -/
structure Site where
  vault : Vault := {}
  /-- The time in milliseconds. -/
  clock : Nat
  /-- The messages that the channel accepted, the latest first. -/
  accepted : List Message := []

namespace Site

/-- Answer a call of a store. -/
def call (c : StoreCall) (s : Site) : Flow.Run Site c.Answer :=
  let r := s.vault.perform s.clock c
  ⟨r.result, r.events, { s with vault := r.state }⟩

/-- A site after the channel was handed a message with the given fate. -/
def post (m : Message) (fate : Attempt Delivery) (s : Site) : Site :=
  match fate with
  | .done (.sent _) => { s with accepted := m :: s.accepted }
  | _ => s

/-- Answer a question of the service, given what becomes of a message. -/
def answer (fate : Attempt Delivery) : Flow.Surroundings ServiceInterface Site
  | .set key value lifetime, s =>
    let r := s.call (.set key value lifetime)
    ⟨.done r.result, r.events, r.state⟩
  | .get key, s => s.call (.get key)
  | .contains key, s => s.call (.contains key)
  | .consume key expected, s => s.call (.consume key expected)
  | .send m, s => ⟨fate, [], s.post m fate⟩

@[simp] theorem post_vault (m : Message) (fate : Attempt Delivery) (s : Site) :
    (s.post m fate).vault = s.vault := by
  unfold post
  split <;> rfl

@[simp] theorem post_clock (m : Message) (fate : Attempt Delivery) (s : Site) :
    (s.post m fate).clock = s.clock := by
  unfold post
  split <;> rfl

/-- The site after some milliseconds. -/
def advance (millis : Nat) (s : Site) : Site := { s with clock := s.clock + millis }

/-- The site after a purge of its vault. -/
def purge (s : Site) : Site := { s with vault := s.vault.purge s.clock }

end Site

/-- Different identities have different keys. -/
theorem ServiceConfig.keyFor_inj {c : ServiceConfig} {i j : String} :
    c.keyFor i = c.keyFor j ↔ i = j := by
  constructor
  · intro h
    rw [keyFor, keyFor, ← String.toList_inj, String.toList_append, String.toList_append] at h
    exact String.toList_inj.1 (List.append_cancel_left h)
  · rintro rfl
    rfl

namespace Service

variable {s : Service} {identity submitted : String} {code : Code}

/-- What issuing asks: to write the code under the key of the identity, for the configured lifetime,
and to send it to the identity. -/
def IssueAsks (s : Service) (identity : String) (code : Code) (q : ServiceCall) : Prop :=
  q = .set (s.config.keyFor identity) code.text s.config.codeLifetime
    ∨ q = .send (s.config.template.render identity code)

/-- What checking asks: to look, to read and to use up under the key of the identity. -/
def CheckAsks (s : Service) (identity submitted : String) (q : ServiceCall) : Prop :=
  q = .contains (s.config.keyFor identity) ∨ q = .get (s.config.keyFor identity)
    ∨ q = .consume (s.config.keyFor identity) submitted

theorem asksOnly_deliver (s : Service) (identity : String) (code : Code) :
    (s.deliver identity code).AsksOnly (s.IssueAsks identity code) := by
  refine ⟨.inr rfl, fun a => ?_⟩
  rcases a with (_ | _) | _ <;> trivial

theorem asksOnly_issue (s : Service) (identity : String) (code : Code) :
    (s.issue identity code).AsksOnly (s.IssueAsks identity code) := by
  simp only [issue, Flow.AsksOnly]
  split
  · refine ⟨.inl rfl, fun a => ?_⟩
    rcases a with (_ | _) | _
    · trivial
    · exact asksOnly_deliver s identity code
    · trivial
  · exact asksOnly_deliver s identity code

theorem asksOnly_check (s : Service) (identity submitted : String) :
    (s.check identity submitted).AsksOnly (s.CheckAsks identity submitted) := by
  unfold check
  split
  · refine ⟨.inl rfl, fun found => ?_⟩
    cases found with
    | false => trivial
    | true =>
      refine ⟨.inr (.inl rfl), fun stored? => ?_⟩
      cases stored? with
      | none => trivial
      | some stored =>
        by_cases h : stored = submitted
        · subst h
          simp only [if_pos]
          refine ⟨.inr (.inr rfl), fun removed => ?_⟩
          cases removed <;> trivial
        · simp only [if_neg h]
          trivial
  · trivial

/-! ## How an issuance ends -/

theorem returns_deliver (s : Service) (identity : String) (code : Code) :
    (s.deliver identity code).Returns fun r => r.identity = identity := by
  intro a
  rcases a with (_ | _) | _ <;> rfl

/-- An issuance reports the identity it was for. -/
theorem returns_issue (s : Service) (identity : String) (code : Code) :
    (s.issue identity code).Returns fun r => r.identity = identity := by
  simp only [issue, Flow.Returns]
  split
  · intro a
    rcases a with (_ | _) | _
    · rfl
    · exact returns_deliver s identity code
    · rfl
  · exact returns_deliver s identity code

/-- The ways in which an issuance with a store can end, each with its exchanges. -/
inductive IssueTrace (s : Service) (identity : String) (code : Code) :
    List (Exchange ServiceInterface) → Outcome → Prop
  | refused : IssueTrace s identity code
      [⟨.set (s.config.keyFor identity) code.text s.config.codeLifetime, .done false⟩] .storeError
  | storeBroke (reason : Option String) : IssueTrace s identity code
      [⟨.set (s.config.keyFor identity) code.text s.config.codeLifetime, .panicked reason⟩]
      .exception
  | delivered (id : String) : IssueTrace s identity code
      [⟨.set (s.config.keyFor identity) code.text s.config.codeLifetime, .done true⟩,
        ⟨.send (s.config.template.render identity code), .done (.sent id)⟩] .success
  | undelivered (reason : String) : IssueTrace s identity code
      [⟨.set (s.config.keyFor identity) code.text s.config.codeLifetime, .done true⟩,
        ⟨.send (s.config.template.render identity code), .done (.failed reason)⟩] .deliveryError
  | channelBroke (reason : Option String) : IssueTrace s identity code
      [⟨.set (s.config.keyFor identity) code.text s.config.codeLifetime, .done true⟩,
        ⟨.send (s.config.template.render identity code), .panicked reason⟩] .exception

/-- **How an issuance ends.** With a store, an issuance that has ended came by one of five
traces. -/
theorem issueTrace_of_leads (hstore : s.hasStore = true)
    {asked : List (Exchange ServiceInterface)} {r : Issuance}
    (h : (s.issue identity code).Leads asked (.done r)) :
    IssueTrace s identity code asked r.outcome := by
  simp only [issue, if_pos hstore] at h
  cases h with
  | log h =>
    cases h with
    | ask stored h =>
      rcases stored with (_ | _) | reason
      · obtain ⟨rfl, rfl⟩ := h.of_log_done
        exact .refused
      · cases h with
        | ask fate h =>
          rcases fate with (id | reason) | reason
          · obtain ⟨rfl, rfl⟩ := h.of_log_done
            exact .delivered id
          · obtain ⟨rfl, rfl⟩ := h.of_log_done
            exact .undelivered reason
          · obtain ⟨rfl, rfl⟩ := h.of_log_done
            exact .channelBroke reason
      · obtain ⟨rfl, rfl⟩ := h.of_log_done
        exact .storeBroke reason

/-! ## How a check ends -/

/-- The ways in which a check of what was submitted can end, each with its exchanges. -/
inductive CheckTrace (key submitted : String) : List (Exchange ServiceInterface) → CodeCheck → Prop
  | absent : CheckTrace key submitted [⟨.contains key, false⟩] .notFound
  | vanished : CheckTrace key submitted [⟨.contains key, true⟩, ⟨.get key, none⟩] .notFound
  | mismatch (stored : String) (h : stored ≠ submitted) :
      CheckTrace key submitted [⟨.contains key, true⟩, ⟨.get key, some stored⟩] .mismatch
  | tooLate : CheckTrace key submitted
      [⟨.contains key, true⟩, ⟨.get key, some submitted⟩, ⟨.consume key submitted, false⟩] .notFound
  | accepted : CheckTrace key submitted
      [⟨.contains key, true⟩, ⟨.get key, some submitted⟩, ⟨.consume key submitted, true⟩] .accepted

/-- Only an accepted check has used up a record. -/
theorem CheckTrace.accepted_of_consumed {submitted : String}
    {asked : List (Exchange ServiceInterface)} {c : CodeCheck}
    (h : CheckTrace key submitted asked c) (hconsumed : ⟨.consume key submitted, true⟩ ∈ asked) :
    c = .accepted := by
  cases h with
  | accepted => rfl
  | absent =>
    simp only [List.mem_cons, List.not_mem_nil, or_false] at hconsumed
    cases hconsumed
  | vanished | mismatch =>
    simp only [List.mem_cons, List.not_mem_nil, or_false] at hconsumed
    rcases hconsumed with hx | hx <;> cases hx
  | tooLate =>
    simp only [List.mem_cons, List.not_mem_nil, or_false] at hconsumed
    rcases hconsumed with hx | hx | hx <;> cases hx

/-- **How a check ends.** With a store, a check that has ended came by one of five traces. -/
theorem checkTrace_of_leads (hstore : s.hasStore = true)
    {asked : List (Exchange ServiceInterface)} {result : Except DomainFault CodeCheck}
    (h : (s.check identity submitted).Leads asked (.done result)) :
    ∃ c, result = .ok c ∧ CheckTrace (s.config.keyFor identity) submitted asked c := by
  simp only [check, if_pos hstore] at h
  cases h with
  | ask found h =>
    cases found with
    | false =>
      obtain ⟨rfl, rfl⟩ := h.of_log_done
      exact ⟨_, rfl, .absent⟩
    | true =>
      cases h with
      | ask stored? h =>
        cases stored? with
        | none =>
          obtain ⟨rfl, hresult⟩ := Flow.leads_done_iff.1 h
          exact ⟨_, Flow.done.inj hresult, .vanished⟩
        | some stored =>
          by_cases hs : stored = submitted
          · subst hs
            simp only [if_pos] at h
            cases h with
            | ask removed h =>
              cases removed with
              | false =>
                obtain ⟨rfl, rfl⟩ := h.of_log_done
                exact ⟨_, rfl, .tooLate⟩
              | true =>
                obtain ⟨rfl, rfl⟩ := h.of_log_done
                exact ⟨_, rfl, .accepted⟩
          · simp only [if_neg hs] at h
            obtain ⟨rfl, rfl⟩ := h.of_log_done
            exact ⟨_, rfl, .mismatch stored hs⟩

/-- **The trace of an accepted check.** A record was there, it held the submitted code, and the
check itself used it up. -/
theorem leads_check_accepted {asked : List (Exchange ServiceInterface)}
    (h : (s.check identity submitted).Leads asked (.done (.ok .accepted))) :
    asked = [⟨.contains (s.config.keyFor identity), true⟩,
      ⟨.get (s.config.keyFor identity), some submitted⟩,
      ⟨.consume (s.config.keyFor identity) submitted, true⟩] := by
  cases hstore : s.hasStore with
  | false => simp [check, hstore] at h
  | true =>
    obtain ⟨c, hc, htrace⟩ := checkTrace_of_leads hstore h
    obtain rfl := Except.ok.inj hc
    cases htrace
    rfl

end Service

end Passcode
