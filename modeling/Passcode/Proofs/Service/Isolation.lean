import Passcode.Proofs.Service.Effect
import Passcode.Proofs.Service.Run

/-!
# What others do does not show

Several services share a store, each with its own prefix. What a site shows under one key decides
what a request under that key comes to, and a request under another key leaves it as it is. So the
requests under other keys can be left out of a run, and those under the key come to the same.

That different identities, or different prefixes, give different keys rests on the prefixes being
set apart: any two of them are equal, or neither begins the other. An identity may be any text.

## Main definitions

* `Site.Agree` — two sites that show the same under a key
* `ServiceConfig.SetApart` — prefixes that are equal, or of which neither begins the other
* `SharedStep` — a request to one of several services, or an incident at their site

## Main statements

* `ServiceConfig.SetApart.keyFor_eq_iff` — which keys are the same
* `Service.run_agree`, `run_of_ne` — a request under the key, and one under another
* `Service.others_do_not_show` — all others can be left out of a run
-/

namespace Passcode

/-! ## What a site shows under one key -/

/-- Two sites that show the same under a key: the time, whether the vault works, and the record
that is live right now. -/
structure Site.Agree (key : String) (a b : Site) : Prop where
  clock : a.clock = b.clock
  outage : a.vault.outage = b.vault.outage
  view : a.vault.view a.clock key = b.vault.view b.clock key

namespace Site

variable {a b : Site} {key : String}

theorem Agree.refl (key : String) (a : Site) : Agree key a a := ⟨rfl, rfl, rfl⟩

theorem Agree.symm (h : Agree key a b) : Agree key b a :=
  ⟨h.clock.symm, h.outage.symm, h.view.symm⟩

theorem Agree.trans {c : Site} (h : Agree key a b) (h' : Agree key b c) : Agree key a c where
  clock := h.clock.trans h'.clock
  outage := h.outage.trans h'.outage
  view := h.view.trans h'.view

/-- A call under the key. -/
theorem Agree.call {c : StoreCall} (h : Agree c.key a b) :
    (a.call c).result = (b.call c).result ∧ Agree c.key (a.call c).state (b.call c).state := by
  obtain ⟨hclock, houtage, hview⟩ := h
  -- Only a vault that works is an ideal map; during an outage nothing is looked at.
  cases hb : b.vault.outage with
  | true =>
    rw [hb] at houtage
    refine ⟨Vault.result_of_outage houtage hb a.clock b.clock c, hclock, ?_, ?_⟩
    · exact (call_outage c a).trans (houtage.trans (hb.symm.trans (call_outage c b).symm))
    · rw [show (a.call c).state.vault = a.vault from Vault.perform_of_outage houtage a.clock c,
        show (b.call c).state.vault = b.vault from Vault.perform_of_outage hb b.clock c]
      exact hview
  | false =>
    rw [hb] at houtage
    have ha := Vault.perform_ideal houtage a.clock c
    have hb' := Vault.perform_ideal hb b.clock c
    obtain ⟨hresult, hleft⟩ := Ideal.perform_congr hview a.clock
    refine ⟨?_, hclock, ha.outage.trans hb'.outage.symm, ?_⟩
    · exact ha.result.trans (hresult.trans (by rw [hclock]; exact hb'.result.symm))
    · refine (congrFun ha.view _).trans (hleft.trans ?_)
      rw [hclock]
      exact (congrFun hb'.view _).symm

/-- A call under another key. -/
theorem agree_call_of_ne {c : StoreCall} (h : key ≠ c.key) (a : Site) :
    Agree key (a.call c).state a := by
  refine ⟨rfl, call_outage c a, ?_⟩
  cases ha : a.vault.outage with
  | true =>
    rw [show (a.call c).state.vault = a.vault from Vault.perform_of_outage ha a.clock c]
    rfl
  | false =>
    have hview := congrFun (Vault.perform_ideal ha a.clock c).view key
    exact hview.trans (Ideal.perform_of_ne h a.clock _)

theorem agree_post (key : String) (m : Message) (fate : Attempt Delivery) (a : Site) :
    Agree key (a.post m fate) a := by
  refine ⟨post_clock m fate a, congrArg Vault.outage (post_vault m fate a), ?_⟩
  rw [post_vault, post_clock]

/-- Whatever happens at both sites. -/
theorem Agree.after (h : Agree key a b) (e : Incident) : Agree key (a.after e) (b.after e) := by
  obtain ⟨hclock, houtage, hview⟩ := h
  cases e with
  | advance millis =>
    refine ⟨congrArg (· + millis) hclock, houtage, ?_⟩
    have ha := congrFun (Vault.view_of_le (Nat.le_add_right a.clock millis) a.vault) key
    have hb := congrFun (Vault.view_of_le (Nat.le_add_right b.clock millis) b.vault) key
    refine ha.trans (Eq.trans ?_ hb.symm)
    rw [hview, hclock]
  | purge =>
    refine ⟨hclock, houtage, ?_⟩
    have ha := congrFun (Vault.view_purge a.vault a.clock) key
    have hb := congrFun (Vault.view_purge b.vault b.clock) key
    exact ha.trans (hview.trans hb.symm)
  | outage failing => exact ⟨hclock, rfl, hview⟩

end Site

/-! ## Requests under one key -/

/-- What a question reaches in the store is under one key. -/
def ServiceCall.OnKey (key : String) (q : ServiceCall) : Prop :=
  ∀ call, q.store? = some call → call.key = key

namespace Site

variable {a b : Site} {key : String} {q : ServiceCall}

/-- A question about the key. -/
theorem Agree.answer (h : Agree key a b) (hq : q.OnKey key) (fate : Attempt Delivery) :
    (Site.answer fate q a).result = (Site.answer fate q b).result
      ∧ Agree key (Site.answer fate q a).state (Site.answer fate q b).state := by
  cases q with
  | set k value lifetime =>
    obtain rfl : k = key := hq _ rfl
    obtain ⟨hresult, hstate⟩ := Agree.call (c := .set k value lifetime) h
    exact ⟨congrArg Attempt.done hresult, hstate⟩
  | get k =>
    obtain rfl : k = key := hq _ rfl
    exact Agree.call (c := .get k) h
  | contains k =>
    obtain rfl : k = key := hq _ rfl
    exact Agree.call (c := .contains k) h
  | consume k expected =>
    obtain rfl : k = key := hq _ rfl
    exact Agree.call (c := .consume k expected) h
  | send m =>
    have ha := agree_post key m fate a
    have hb := agree_post key m fate b
    exact ⟨rfl, ha.trans (h.trans hb.symm)⟩

/-- A question for the store does to the site what its call does. -/
theorem answer_state_of_store {call : StoreCall} (h : q.store? = some call)
    (fate : Attempt Delivery) (a : Site) : (Site.answer fate q a).state = (a.call call).state := by
  cases q with
  | send m => exact absurd h nofun
  | set | get | contains | consume =>
    obtain rfl := Option.some.inj h
    rfl

/-- A question about another key. -/
theorem agree_answer_of_ne {other : String} (hq : q.OnKey other) (hne : key ≠ other)
    (fate : Attempt Delivery) (a : Site) : Agree key (Site.answer fate q a).state a := by
  cases hcall : q.store? with
  | some call =>
    rw [answer_state_of_store hcall]
    rw [← hq call hcall] at hne
    exact agree_call_of_ne hne a
  | none =>
    cases q with
    | send m => exact agree_post key m fate a
    | set | get | contains | consume => exact absurd hcall nofun

end Site

namespace Service

variable {s : Service} {r : ServiceRequest} {key : String} {a b : Site}

/-- All that a request asks of the store is about the key of its identity. -/
theorem onKey_of_requestAsks {q : ServiceCall} (h : s.RequestAsks r q) :
    q.OnKey (s.config.keyFor r.identity) := by
  intro call hcall
  cases r with
  | issue identity code =>
    rcases h with rfl | rfl
    · obtain rfl := Option.some.inj hcall
      rfl
    · exact absurd hcall nofun
  | check identity submitted =>
    rcases h with rfl | rfl | rfl
    all_goals
      obtain rfl := Option.some.inj hcall
      rfl

/-- **A request under the key.** Sites that agree there give it the same response. -/
theorem run_agree (h : a.Agree (s.config.keyFor r.identity) b) (fate : Attempt Delivery) :
    ((s.flow r).run (Site.answer fate) a).result = ((s.flow r).run (Site.answer fate) b).result
      ∧ Site.Agree (s.config.keyFor r.identity) ((s.flow r).run (Site.answer fate) a).state
          ((s.flow r).run (Site.answer fate) b).state :=
  Flow.run_simulates (asksOnly_flow s r)
    (fun _ hq _ _ hst => hst.answer (onKey_of_requestAsks hq) fate) h

/-- **A request under another key.** It leaves what the site shows. -/
theorem run_of_ne (hne : key ≠ s.config.keyFor r.identity) (fate : Attempt Delivery) (a : Site) :
    Site.Agree key ((s.flow r).run (Site.answer fate) a).state a :=
  Flow.run_keeps (fun site => Site.Agree key site a) (asksOnly_flow s r)
    (fun _ hq site hsite =>
      (Site.agree_answer_of_ne (onKey_of_requestAsks hq) hne fate site).trans hsite)
    (.refl key a)

end Service

/-! ## Prefixes -/

/-- The prefixes are equal, or neither begins the other. -/
def ServiceConfig.SetApart (c d : ServiceConfig) : Prop :=
  c.codePrefix = d.codePrefix
    ∨ ¬c.codePrefix.toList <+: d.codePrefix.toList ∧ ¬d.codePrefix.toList <+: c.codePrefix.toList

/-- Keys are the same exactly if they are made of the same prefix and the same identity. -/
theorem ServiceConfig.SetApart.keyFor_eq_iff {c d : ServiceConfig} (h : c.SetApart d)
    {i j : String} : c.keyFor i = d.keyFor j ↔ c.codePrefix = d.codePrefix ∧ i = j := by
  constructor
  · intro hkey
    rcases h with hsame | ⟨hcd, hdc⟩
    · have hown : d.keyFor i = d.keyFor j := by rw [← hkey, keyFor, keyFor, hsame]
      exact ⟨hsame, ServiceConfig.keyFor_inj.1 hown⟩
    · have hlists : c.codePrefix.toList ++ i.toList = d.codePrefix.toList ++ j.toList := by
        rw [← String.toList_append, ← String.toList_append]
        exact congrArg String.toList hkey
      have hc : c.codePrefix.toList <+: d.codePrefix.toList ++ j.toList := ⟨_, hlists⟩
      -- Two prefixes of one text are comparable.
      rcases List.prefix_or_prefix_of_prefix hc (List.prefix_append _ _) with hpre | hpre
      · exact absurd hpre hcd
      · exact absurd hpre hdc
  · rintro ⟨hsame, rfl⟩
    rw [keyFor, keyFor, hsame]

/-! ## Runs -/

/-- What happens at a site that several services share: a request to one of them, the channel
doing `fate` to its message, or something else. -/
inductive SharedStep (ι : Type) where
  | request (i : ι) (r : ServiceRequest) (fate : Attempt Delivery)
  | incident (e : Incident)

/-- What is learnt from a step: the response to a request. -/
def SharedStep.Answer {ι : Type} : SharedStep ι → Type
  | .request .. => ServiceResponse
  | .incident _ => Unit

/-- The steps at a shared site as questions. -/
abbrev SharedInterface (ι : Type) : Interface := ⟨SharedStep ι, SharedStep.Answer⟩

namespace Service

variable {ι : Type}

/-- A step at a site that services share. -/
def sharedAnswer (services : ι → Service) : Flow.Surroundings (SharedInterface ι) Site
  | .request i r fate, site => ((services i).flow r).run (Site.answer fate) site
  | .incident e, site => ⟨(), [], site.after e⟩

/-- Whether a step is a request of an identity under a prefix, or no request at all. -/
def concerns (services : ι → Service) (codePrefix identity : String) : SharedStep ι → Bool
  | .request i r _ => (services i).config.codePrefix = codePrefix ∧ r.identity = identity
  | .incident _ => true

section Apart

variable {services : ι → Service} {owner : ι} {identity : String} {q : SharedStep ι} {a b : Site}

/-- A step that concerns the identity is the same at two sites that agree under its key. -/
theorem sharedAnswer_agree
    (hapart : ∀ i j, (services i).config.SetApart (services j).config)
    (hq : concerns services (services owner).config.codePrefix identity q = true)
    (h : a.Agree ((services owner).config.keyFor identity) b) :
    (sharedAnswer services q a).result = (sharedAnswer services q b).result
      ∧ Site.Agree ((services owner).config.keyFor identity) (sharedAnswer services q a).state
        (sharedAnswer services q b).state := by
  cases q with
  | request i r fate =>
    rw [concerns, decide_eq_true_eq] at hq
    have hkey := (hapart i owner).keyFor_eq_iff.2 hq
    rw [← hkey] at h ⊢
    exact run_agree h fate
  | incident e => exact ⟨rfl, h.after e⟩

/-- A step that does not concern the identity leaves what the site shows under its key. -/
theorem sharedAnswer_of_not_concerns
    (hapart : ∀ i j, (services i).config.SetApart (services j).config)
    (hq : concerns services (services owner).config.codePrefix identity q = false) (a : Site) :
    Site.Agree ((services owner).config.keyFor identity) (sharedAnswer services q a).state a := by
  cases q with
  | request i r fate =>
    rw [concerns, decide_eq_false_iff_not] at hq
    have hne : (services owner).config.keyFor identity ≠ (services i).config.keyFor r.identity :=
      fun hkey => hq ((hapart i owner).keyFor_eq_iff.1 hkey.symm)
    exact run_of_ne hne fate a
  | incident e => exact absurd hq nofun

end Apart

/-- **What others do does not show.** However the requests to services with prefixes that are set
apart are mixed, what one identity gets from one of them is what it would get if the requests of
all other identities, and those under other prefixes, had not been made. -/
theorem others_do_not_show (services : ι → Service)
    (hapart : ∀ i j, (services i).config.SetApart (services j).config) (site : Site)
    (steps : List (SharedStep ι)) (owner : ι) (identity : String) :
    let config := (services owner).config
    let shown := concerns services config.codePrefix identity
    let whole := (Flow.askAll steps).run (sharedAnswer services) site
    let alone := (Flow.askAll (steps.filter shown)).run (sharedAnswer services) site
    whole.result.filter (fun x => shown x.question) = alone.result
      ∧ whole.state.clock = alone.state.clock
      ∧ whole.state.vault.live? (config.keyFor identity) whole.state.clock
        = alone.state.vault.live? (config.keyFor identity) alone.state.clock := by
  intro config shown whole alone
  have hruns : whole.result.filter (fun x => shown x.question) = alone.result
      ∧ Site.Agree (config.keyFor identity) whole.state alone.state :=
    Flow.run_askAll_filter (I := SharedInterface ι)
      (fun _ hq _ _ h => sharedAnswer_agree hapart hq h)
      (fun _ hq a _ h => (sharedAnswer_of_not_concerns hapart hq a).trans h)
      (Site.Agree.refl _ site)
  exact ⟨hruns.1, hruns.2.clock, hruns.2.view⟩

/-- Two services, and the identities that are easiest to mix up: the empty one under both prefixes,
and one that is a prefix itself. -/
theorem strangers_do_not_show :
    let services : Bool → Service := fun b =>
      ⟨true, "Mock", { codePrefix := if b then "p:" else "q:" }⟩
    let sent : Attempt Delivery := .done (.sent "1")
    let steps : List (SharedStep Bool) := [
      .request true (.issue "" (Code.ofDraw 0)) sent,
      .request true (.issue "p:" (Code.ofDraw 1)) sent,
      .request false (.check "" "100000") sent,
      .incident (.advance 1000),
      .request true (.check "p:" "100001") sent,
      .request true (.check "" "100000") sent]
    let own : List (SharedStep Bool) := [
      .request true (.issue "" (Code.ofDraw 0)) sent,
      .incident (.advance 1000),
      .request true (.check "" "100000") sent]
    let run := fun steps => (Flow.askAll steps).run (sharedAnswer services) { clock := 0 }
    (∀ i j, (services i).config.SetApart (services j).config)
      ∧ (run steps).result.filter (fun x => concerns services "p:" "" x.question)
        = (run own).result := by
  intro services sent steps own run
  have hapart : ∀ i j, (services i).config.SetApart (services j).config := by
    intro i j
    by_cases h : i = j
    · exact .inl (congrArg (fun b => (services b).config.codePrefix) h)
    · refine .inr ?_
      cases i <;> cases j <;> first | exact absurd rfl h | decide
  have hown : steps.filter (concerns services "p:" "") = own := rfl
  refine ⟨hapart, ?_⟩
  rw [← hown]
  exact (others_do_not_show services hapart { clock := 0 } steps true "").1

end Service

end Passcode
