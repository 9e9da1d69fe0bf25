import Passcode.Proofs.Flow.Pool
import Passcode.Proofs.Service.Site
import Passcode.Service.Request

/-!
# Concurrent requests to a service

Requests to issue and to check codes are in progress at the same time over one site, each question
of each request being one step. Between the steps time may pass, the vault may be purged, and an
outage may begin or end.

## Main definitions

* `ServiceResponse` — how a request ends
* `Service.arena` — the requests of a service over a site
* `Turn.Wrote`, `Turn.UsedUp` — the two ways in which a turn settles what is under a key
* `Turn.settled?` — the key that a turn settled, if it settled one

## Main statements

* `Service.issue_of_wrote` — only an issuance writes, and only its own code under its own key
* `Service.usedUp_of_accepted` — an accepted check has used up a record that held what was submitted
-/

namespace Passcode

/-- How a request ends. -/
inductive ServiceResponse where
  | issued (r : Issuance)
  | checked (r : Except DomainFault CodeCheck)

/-- What happens to a site while requests are in progress. -/
inductive Incident where
  | advance (millis : Nat)
  | purge
  | outage (on : Bool)

/-- A site after an incident. -/
def Site.after (s : Site) : Incident → Site
  | .advance millis => s.advance millis
  | .purge => s.purge
  | .outage on => { s with vault := { s.vault with outage := on } }

namespace Turn

/-- The turn stored a value under a key. -/
def Wrote (t : Turn ServiceInterface Site) (key value : String) (lifetime : Int) : Prop :=
  t.exchange = ⟨.set key value lifetime, .done true⟩

/-- The turn used up a record that held a value. -/
def UsedUp (t : Turn ServiceInterface Site) (key value : String) : Prop :=
  t.exchange = ⟨.consume key value, true⟩

/-- The key under which a turn stored or used up a record, if it did. -/
def settled? (t : Turn ServiceInterface Site) : Option String :=
  match t.exchange with
  | ⟨.set key _ _, .done true⟩ => some key
  | ⟨.consume key _, true⟩ => some key
  | _ => none

theorem Wrote.settled? {t : Turn ServiceInterface Site} {key value : String} {lifetime : Int}
    (h : t.Wrote key value lifetime) : t.settled? = some key := by
  rw [Turn.settled?, show t.exchange = _ from h]

theorem UsedUp.settled? {t : Turn ServiceInterface Site} {key value : String}
    (h : t.UsedUp key value) : t.settled? = some key := by
  rw [Turn.settled?, show t.exchange = _ from h]

end Turn

namespace Service

variable {s : Service}

/-- The flow of a request. -/
def flow (s : Service) : ServiceRequest → Flow ServiceInterface ServiceResponse
  | .issue identity code => (s.issue identity code).map .issued
  | .check identity submitted => (s.check identity submitted).map .checked

/-- The requests of a service over a site. Chance decides what becomes of a message. -/
def arena (s : Service) :
    Arena ServiceInterface ServiceRequest ServiceResponse Site (Attempt Delivery) Incident where
  flow := s.flow
  answer := Site.answer
  change e site := site.after e

/-- The requests in progress over a site. -/
abbrev Traffic := Pool ServiceInterface ServiceRequest ServiceResponse Site

/-- What a request may ask. -/
def RequestAsks (s : Service) : ServiceRequest → ServiceCall → Prop
  | .issue identity code => s.IssueAsks identity code
  | .check identity submitted => s.CheckAsks identity submitted

theorem asksOnly_flow (s : Service) (r : ServiceRequest) :
    (s.flow r).AsksOnly (s.RequestAsks r) := by
  cases r with
  | issue identity code => exact Flow.asksOnly_map (asksOnly_issue s identity code)
  | check identity submitted => exact Flow.asksOnly_map (asksOnly_check s identity submitted)

/-- Only an issuance writes, and only its own code under its own key. -/
theorem issue_of_wrote {p : Traffic} (hp : s.arena.Traced p) {t : Turn ServiceInterface Site}
    (ht : t ∈ p.turns) {key value : String} {lifetime : Int} (hw : t.Wrote key value lifetime) :
    ∃ identity code, p.call? t.caller = some (.issue identity code)
      ∧ key = s.config.keyFor identity ∧ value = code.text ∧ lifetime = s.config.codeLifetime := by
  obtain ⟨r, hr, hasks⟩ := hp.asksOnly ht (asksOnly_flow s)
  rw [show t.exchange = _ from hw] at hasks
  cases r with
  | issue identity code =>
    rcases hasks with hset | hsend
    · obtain ⟨rfl, rfl, rfl⟩ := ServiceCall.set.inj hset
      exact ⟨identity, code, hr, rfl, rfl, rfl⟩
    · cases hsend
  | check identity submitted =>
    rcases hasks with h | h | h <;> cases h

/-- An accepted check has used up, in a turn of its own, a record that held what was submitted. -/
theorem usedUp_of_accepted {p : Traffic} (hp : s.arena.Traced p) {i : Nat}
    {identity submitted : String}
    (h : p.Ended i (.check identity submitted) (.checked (.ok .accepted))) :
    ∃ (n : Nat) (t : Turn ServiceInterface Site), p.turns[n]? = some t ∧ t.caller = i
      ∧ t.UsedUp (s.config.keyFor identity) submitted := by
  obtain ⟨result, hresult, hleads⟩ := (hp.leads i _ _ h).of_map_done
  obtain rfl : result = .ok .accepted := ServiceResponse.checked.inj hresult
  have hasked := leads_check_accepted hleads
  have hmem : (⟨.consume (s.config.keyFor identity) submitted, true⟩ : Exchange ServiceInterface)
      ∈ p.asked i := by
    rw [hasked]
    simp
  obtain ⟨t, ht, hexchange⟩ := List.mem_map.1 hmem
  obtain ⟨hturn, hcaller⟩ := List.mem_filter.1 ht
  obtain ⟨n, hn⟩ := List.mem_iff_getElem?.1 hturn
  exact ⟨n, t, hn, by simpa using hcaller, hexchange⟩

/-- A check that has ended in a pool, with the exchanges it had there. -/
theorem checkTrace_of_ended (hstore : s.hasStore = true) {p : Traffic} (hp : s.arena.Traced p)
    {i : Nat} {identity submitted : String} {response : ServiceResponse}
    (h : p.Ended i (.check identity submitted) response) :
    ∃ c, response = .checked (.ok c)
      ∧ CheckTrace (s.config.keyFor identity) submitted (p.asked i) c := by
  obtain ⟨result, hresult, hleads⟩ := (hp.leads i _ _ h).of_map_done
  obtain ⟨c, rfl, htrace⟩ := checkTrace_of_leads hstore hleads
  exact ⟨c, hresult.symm, htrace⟩

end Service

end Passcode
