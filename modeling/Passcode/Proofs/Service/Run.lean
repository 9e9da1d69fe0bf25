import Passcode.Proofs.Service.Site
import Passcode.Proofs.Store.Ideal

/-!
# One request, from start to end

What a request does when nothing happens in between: its result and what it leaves, in terms of
the live records of the vault. The vault is not failing.

## Main definitions

* `Site.Shows` — the vault works, and its live records are the given ones
* `CodeCheck.verdict` — the result of a check, from the live record and what was submitted

## Main statements

* `Service.run_check` — a check gives the verdict, and only an acceptance removes the record
* `Service.run_issue` — an issuance replaces the record and has the message sent, or is refused
-/

namespace Passcode

open Function

/-- The vault of a site works, and the records that are live right now are `m`. -/
structure Site.Shows (site : Site) (m : Ideal) : Prop where
  works : site.vault.outage = false
  view : site.vault.view site.clock = m

namespace Site

variable {site : Site} {m : Ideal}

/-- A call is answered from the live records, whatever else the vault holds. -/
theorem Shows.call (h : site.Shows m) (c : StoreCall) :
    (site.call c).result = (m.perform site.clock c).1
      ∧ (site.call c).state.Shows (m.perform site.clock c).2 := by
  obtain ⟨hworks, rfl⟩ := h
  have hc := Vault.perform_ideal hworks site.clock c
  exact ⟨hc.result, hc.outage, hc.view⟩

theorem Shows.post (h : site.Shows m) (message : Message) (fate : Attempt Delivery) :
    (site.post message fate).Shows m where
  works := by rw [post_vault]; exact h.works
  view := by rw [post_vault, post_clock]; exact h.view

theorem Shows.purge (h : site.Shows m) : site.purge.Shows m :=
  ⟨h.works, (Vault.view_purge site.vault site.clock).trans h.view⟩

theorem Shows.advance (h : site.Shows m) (millis : Nat) :
    (site.advance millis).Shows (m.elapse (site.clock + millis)) := by
  obtain ⟨hworks, rfl⟩ := h
  exact ⟨hworks, Vault.view_of_le (Nat.le_add_right _ _) site.vault⟩

end Site

/-- The result of a check, from the live record and what was submitted. -/
def CodeCheck.verdict (r? : Option Record) (submitted : String) : CodeCheck :=
  match r? with
  | none => .notFound
  | some r => if r.value = submitted then .accepted else .mismatch

/-- The live records after a check: only an accepted one removes a record. -/
def Ideal.afterCheck (m : Ideal) (key submitted : String) : Ideal :=
  if CodeCheck.verdict (m key) submitted = .accepted then update m key none else m

namespace Service

variable {s : Service} {site : Site} {m : Ideal}

/-- The end of a check of what is under `key`, begun at a site that shows `m`. -/
structure Checked (site : Site) (m : Ideal) (key submitted : String)
    (r : Flow.Run Site (Except DomainFault CodeCheck)) : Prop where
  result : r.result = .ok (.verdict (m key) submitted)
  shows : r.state.Shows (m.afterCheck key submitted)
  clock : r.state.clock = site.clock
  accepted : r.state.accepted = site.accepted

/-- Using up the live record under a key, which holds what was submitted. -/
theorem run_consume (hsite : site.Shows m) {identity : String} {r : Record}
    (hm : m (s.config.keyFor identity) = some r) (fate : Attempt Delivery) :
    Checked site m (s.config.keyFor identity) r.value
      ((s.consume identity r.value).run (Site.answer fate) site) := by
  have hideal : m.perform site.clock (.consume (s.config.keyFor identity) r.value)
      = (true, update m (s.config.keyFor identity) none) := by
    rw [Ideal.perform, if_pos (by rw [hm]; rfl)]
    rfl
  have hverdict : CodeCheck.verdict (m (s.config.keyFor identity)) r.value = .accepted := by
    rw [hm, CodeCheck.verdict, if_pos rfl]
  obtain ⟨hremoved, hshows⟩ := hsite.call (.consume (s.config.keyFor identity) r.value)
  rw [hideal] at hremoved hshows
  simp only [consume, Flow.run, Site.answer, hremoved]
  refine ⟨by rw [hverdict], ?_, rfl, rfl⟩
  rw [Ideal.afterCheck, if_pos hverdict]
  exact hshows

/-- **One check.** It gives the verdict on the live record. An acceptance removes that record;
everything else leaves the live records as they are. -/
theorem run_check (h : s.hasStore = true) (hsite : site.Shows m) (identity submitted : String)
    (fate : Attempt Delivery) :
    Checked site m (s.config.keyFor identity) submitted
      ((s.check identity submitted).run (Site.answer fate) site) := by
  have hfound : (site.call (.contains (s.config.keyFor identity))).result
      = (m (s.config.keyFor identity)).isSome := (hsite.call _).1
  have hsite₁ : (site.call (.contains (s.config.keyFor identity))).state.Shows m :=
    (hsite.call _).2
  have hread : ((site.call (.contains (s.config.keyFor identity))).state.call
      (.get (s.config.keyFor identity))).result = (m (s.config.keyFor identity)).map (·.value) :=
    (hsite₁.call _).1
  have hsite₂ : ((site.call (.contains (s.config.keyFor identity))).state.call
      (.get (s.config.keyFor identity))).state.Shows m := (hsite₁.call _).2
  cases hm : m (s.config.keyFor identity) with
  | none =>
    rw [hm] at hfound
    simp only [check, if_pos h, Flow.run, Site.answer, hfound, Option.isSome_none]
    refine ⟨by rw [hm]; rfl, ?_, rfl, rfl⟩
    rw [Ideal.afterCheck, hm, if_neg (by rw [CodeCheck.verdict]; decide)]
    exact hsite₁
  | some r =>
    rw [hm] at hfound hread
    simp only [check, if_pos h, Flow.run, Site.answer, hfound, hread, Option.isSome_some,
      Option.map_some]
    by_cases hr : r.value = submitted
    · subst hr
      obtain ⟨hresult, hshows, hclock, haccepted⟩ := run_consume (s := s) hsite₂ hm fate
      simp only [if_pos]
      exact ⟨hresult, hshows, hclock, haccepted⟩
    · have hverdict : CodeCheck.verdict (m (s.config.keyFor identity)) submitted = .mismatch := by
        rw [hm, CodeCheck.verdict, if_neg hr]
      simp only [if_neg hr, Flow.run]
      refine ⟨by rw [hverdict], ?_, rfl, rfl⟩
      rw [Ideal.afterCheck, hverdict, if_neg (by decide)]
      exact hsite₂

/-- What an issuance comes to once its code is stored. -/
def outcomeOf : Delivery → Outcome
  | .sent _ => .success
  | .failed _ => .deliveryError

/-- The end of an issuance. -/
structure Issued (site : Site) (m : Ideal) (outcome : Outcome) (accepted : List Message)
    (r : Flow.Run Site Issuance) : Prop where
  outcome : r.result.outcome = outcome
  shows : r.state.Shows m
  clock : r.state.clock = site.clock
  accepted : r.state.accepted = accepted

/-- **One issuance.** The code is stored in place of what was under the key, and then its message
is sent; or the code is refused, because the clock cannot name its deadline, and nothing changes. -/
theorem run_issue (h : s.hasStore = true) (hsite : site.Shows m) (identity : String) (code : Code)
    (fate : Delivery) :
    let r := (s.issue identity code).run (Site.answer (.done fate)) site
    match Vault.deadline? site.clock s.config.codeLifetime with
    | some d =>
      Issued site (update m (s.config.keyFor identity) (some ⟨code.text, d⟩)) (outcomeOf fate)
        (site.post (s.config.template.render identity code) (.done fate)).accepted r
    | none => Issued site m .storeError site.accepted r := by
  intro r
  have hset := hsite.call (.set (s.config.keyFor identity) code.text s.config.codeLifetime)
  rw [Ideal.perform_set] at hset
  cases hd : Vault.deadline? site.clock s.config.codeLifetime with
  | none =>
    rw [hd] at hset
    obtain ⟨hresult, hshows⟩ := hset
    simp only [r, issue, if_pos h, Flow.run, Site.answer, hresult]
    exact ⟨rfl, hshows, rfl, rfl⟩
  | some d =>
    rw [hd] at hset
    have hposted := hset.2.post (s.config.template.render identity code) (.done fate)
    cases fate with
    | sent id =>
      simp only [r, issue, if_pos h, Flow.run, Site.answer, hset.1, deliver]
      exact ⟨rfl, hposted, rfl, rfl⟩
    | failed reason =>
      simp only [r, issue, if_pos h, Flow.run, Site.answer, hset.1, deliver]
      exact ⟨rfl, hposted, rfl, rfl⟩

end Service

end Passcode
