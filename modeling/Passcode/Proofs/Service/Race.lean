import Passcode.Proofs.Service.Effect

/-!
# Checks that race for one code

Any number of checks submit the right code of one identity at the same time. Each of them looks,
reads and uses up in three separate steps, so all of them may have read the code before the first
one uses it up, and a check can come too late at each of its steps. Exactly one of them is accepted.

At most one wins because the record goes with the first that uses it up. At least one wins because
as long as nobody has used the record up, every step of every check succeeds. The invariant says
both at once: the record is there and no turn has settled its key, or it is gone and one turn has.

## Main definitions

* `Race` — the invariant
* `Service.Undisturbed` — nobody else writes or removes the record, and it does not expire

## Main statements

* `Service.keeps_race` — every answer and every incident keeps the invariant
* `Service.Racing.answer_of_unsettled`, `Racing.exists_settled` — at least one check wins
* `Service.one_of_racing_checks_wins` — exactly one check is accepted
-/

namespace Passcode

variable {s : Service} {turns : List (Turn ServiceInterface Site)} {key : String} {r : Record}
  {t : Turn ServiceInterface Site} {site : Site}

/-! ## The invariant -/

/-- Where a race for the record `r` under a key stands. -/
inductive Race (key : String) (r : Record) (turns : List (Turn ServiceInterface Site))
    (site : Site) : Prop
  | undecided (found : site.vault.find? key = some r)
      (unsettled : ∀ t ∈ turns, t.settled? ≠ some key)
  | decided (n : Nat) (t : Turn ServiceInterface Site) (there : turns[n]? = some t)
      (settled : t.settled? = some key) (gone : site.vault.find? key = none)
      (only : ∀ m u, turns[m]? = some u → u.settled? = some key → m = n)
  | overwritten (t : Turn ServiceInterface Site) (ht : t ∈ turns) (value : String) (lifetime : Int)
      (h : t.Wrote key value lifetime)
  | expired (h : r.isLive site.clock = false)

/-- **One turn.** -/
theorem Race.turn (h : Race key r turns t.state) (he : Effect key t site)
    (hclock : site.clock = t.state.clock) : Race key r (turns ++ [t]) site := by
  cases h with
  | overwritten u hu value lifetime hwrote =>
    exact .overwritten u (List.mem_append_left _ hu) value lifetime hwrote
  | expired hexpired => exact .expired (hclock ▸ hexpired)
  | undecided found unsettled =>
    cases he with
    | wrote value lifetime hwrote => exact .overwritten t (by simp) value lifetime hwrote
    | usedUp r' hlive hused hgone =>
      refine .decided turns.length t List.getElem?_concat_length hused.settled? hgone ?_
      intro m u hu hsettled
      rcases getElem?_concat_cases hu with hu | ⟨rfl, -⟩
      · exact absurd hsettled (unsettled u (List.mem_of_getElem? hu))
      · rfl
    | spared hspared hsame =>
      refine .undecided (hsame.trans found) fun u hu => ?_
      rcases List.mem_append.1 hu with hu | hu
      · exact unsettled u hu
      · rwa [List.mem_singleton.1 hu]
    | dropped hspared hgone hexpired =>
      -- The record that goes is the one that is raced for.
      refine .expired ?_
      rw [Vault.live?, found, Option.filter_some] at hexpired
      rw [hclock, Bool.eq_false_iff]
      intro hr
      rw [if_pos hr] at hexpired
      cases hexpired
  | decided n u there settled gone only =>
    have hthere : (turns ++ [t])[n]? = some u := by
      rw [List.getElem?_append_left (List.getElem?_eq_some_iff.1 there).1]
      exact there
    -- A turn that settles nothing under the key leaves turn `n` the only one that did.
    have honly (hspared : t.settled? ≠ some key) (m : Nat) (w : Turn ServiceInterface Site)
        (hw : (turns ++ [t])[m]? = some w) (hsettled : w.settled? = some key) : m = n := by
      rcases getElem?_concat_cases hw with hw | ⟨-, rfl⟩
      · exact only m w hw hsettled
      · exact absurd hsettled hspared
    cases he with
    | wrote value lifetime hwrote => exact .overwritten t (by simp) value lifetime hwrote
    | usedUp r' hlive hused hgone =>
      rw [Vault.live?, gone] at hlive
      cases hlive
    | spared hspared hsame => exact .decided n u hthere settled (hsame.trans gone) (honly hspared)
    | dropped hspared hgone hexpired => exact .decided n u hthere settled hgone (honly hspared)

/-- **One incident.** Time can only end the race by expiry, and a purge takes nothing that is
live. -/
theorem Race.after (h : Race key r turns site) (e : Incident) :
    Race key r turns (site.after e) := by
  cases h with
  | overwritten t ht value lifetime hwrote => exact .overwritten t ht value lifetime hwrote
  | undecided found unsettled =>
    cases e with
    | advance millis => exact .undecided found unsettled
    | outage on => exact .undecided found unsettled
    | purge =>
      cases hr : r.isLive site.clock with
      | false => exact .expired hr
      | true =>
        refine .undecided ?_ unsettled
        exact (Vault.find?_purge site.vault site.clock key).trans (by rw [found]; simp [hr])
  | decided n t there settled gone only =>
    cases e with
    | advance millis => exact .decided n t there settled gone only
    | outage on => exact .decided n t there settled gone only
    | purge =>
      refine .decided n t there settled ?_ only
      exact (Vault.find?_purge site.vault site.clock key).trans (by rw [gone]; rfl)
  | expired hexpired =>
    refine .expired ?_
    cases e with
    | advance millis =>
      rw [Bool.eq_false_iff]
      intro hlater
      have hnow := Record.isLive_of_le (Nat.le_add_right site.clock millis) hlater
      rw [hexpired] at hnow
      cases hnow
    | purge => exact hexpired
    | outage on => exact hexpired

/-- No turn lies in the future. -/
def Past (turns : List (Turn ServiceInterface Site)) (site : Site) : Prop :=
  ∀ t ∈ turns, t.state.clock ≤ site.clock

namespace Service

/-- **Every answer and every incident keeps the race going.** -/
theorem keeps_race (s : Service) (key : String) (r : Record) : s.arena.Keeps (Race key r) where
  change _ _ e h := h.after e
  answer _ site i q fate h :=
    Race.turn (t := ⟨i, site, ⟨q, (Site.answer fate q site).result⟩⟩) h
      (Site.effect fate q site i key) (Site.answer_clock fate q site)

theorem keeps_past (s : Service) : s.arena.Keeps Past where
  change _ site e h t ht := by
    have hnow : t.state.clock ≤ site.clock := h t ht
    refine Nat.le_trans hnow ?_
    cases e with
    | advance millis => exact Nat.le_add_right site.clock millis
    | purge => exact Nat.le_refl site.clock
    | outage on => exact Nat.le_refl site.clock
  answer turns site i q fate h t ht := by
    have hclock : (s.arena.answer fate q site).state.clock = site.clock :=
      Site.answer_clock fate q site
    rw [hclock]
    rcases List.mem_append.1 ht with ht | ht
    · exact h t ht
    · obtain rfl := List.mem_singleton.1 ht
      exact Nat.le_refl site.clock

end Service

/-! ## The race -/

namespace Service

variable {identity submitted : String}

/-- Nothing but checks happens to a record: the store worked at every question, nobody wrote under
the key, and the record has not expired by the end. -/
structure Undisturbed (p : Traffic) (key : String) (r : Record) : Prop where
  works : ∀ t ∈ p.turns, t.state.vault.outage = false
  unwritten : ∀ t ∈ p.turns, ∀ value lifetime, ¬t.Wrote key value lifetime
  inTime : r.isLive p.state.clock = true

/-- What is known of a race that nothing has disturbed. -/
structure Racing (s : Service) (p : Traffic) (key : String) (r : Record) : Prop where
  traced : s.arena.Traced p
  race : s.arena.Shared (Race key r) p
  past : Past p.turns p.state
  undisturbed : Undisturbed p key r

namespace Racing

variable {p : Traffic}

/-- The record was in time whenever a question was asked. -/
theorem isLive (h : Racing s p key r) (ht : t ∈ p.turns) : r.isLive t.state.clock = true :=
  Record.isLive_of_le (h.past t ht) h.undisturbed.inTime

/-- When a question was asked, the record was there, or some earlier turn had settled its key. -/
theorem found_or_settled (h : Racing s p key r) (ht : t ∈ p.turns) :
    t.state.vault.find? key = some r
      ∨ t.state.vault.find? key = none ∧ ∃ u ∈ p.turns, u.settled? = some key := by
  obtain ⟨n, hn⟩ := List.mem_iff_getElem?.1 ht
  cases h.race.before n t hn with
  | undecided found unsettled => exact .inl found
  | decided m u there settled gone only =>
    exact .inr ⟨gone, u, List.mem_of_mem_take (List.mem_of_getElem? there), settled⟩
  | overwritten u hu value lifetime hwrote =>
    exact absurd hwrote (h.undisturbed.unwritten u (List.mem_of_mem_take hu) value lifetime)
  | expired hexpired =>
    rw [h.isLive ht] at hexpired
    cases hexpired

/-- Whoever reads the record reads its value. -/
theorem value_of_get (h : Racing s p key r) (ht : t ∈ p.turns) {value : String}
    (hget : t.exchange = ⟨.get key, some value⟩) : value = r.value := by
  obtain ⟨fate, hanswer⟩ := h.race.honest t ht
  rw [hget] at hanswer
  have hread : (t.state.vault.live? key t.state.clock).map (·.value) = some value := by
    have hresult : (t.state.vault.get t.state.clock key).result = some value := hanswer.symm
    rw [Vault.get, h.undisturbed.works t ht] at hresult
    exact hresult
  rcases h.found_or_settled ht with hfound | ⟨hgone, -⟩
  · rw [Vault.live?, hfound, Option.filter_some, if_pos (h.isLive ht)] at hread
    exact (Option.some.inj hread).symm
  · rw [Vault.live?, hgone] at hread
    cases hread

/-- **As long as nobody has settled the key, every question about the right code succeeds.** -/
theorem answer_of_unsettled (h : Racing s p key r)
    (hunsettled : ∀ u ∈ p.turns, u.settled? ≠ some key) (ht : t ∈ p.turns) :
    t.exchange ≠ ⟨.contains key, false⟩ ∧ t.exchange ≠ ⟨.get key, none⟩
      ∧ t.exchange ≠ ⟨.consume key r.value, false⟩ := by
  obtain ⟨fate, hanswer⟩ := h.race.honest t ht
  have hworks : t.state.vault.outage = false := h.undisturbed.works t ht
  have hfound : t.state.vault.find? key = some r := by
    rcases h.found_or_settled ht with hfound | ⟨-, u, hu, hsettled⟩
    · exact hfound
    · exact absurd hsettled (hunsettled u hu)
  have hlive : t.state.vault.live? key t.state.clock = some r := by
    rw [Vault.live?, hfound, Option.filter_some, if_pos (h.isLive ht)]
  refine ⟨fun hx => ?_, fun hx => ?_, fun hx => ?_⟩
  · rw [hx] at hanswer
    have hresult : (t.state.vault.contains t.state.clock key).result = false := hanswer.symm
    rw [Vault.contains, hworks, hlive] at hresult
    cases hresult
  · rw [hx] at hanswer
    have hresult : (t.state.vault.get t.state.clock key).result = none := hanswer.symm
    rw [Vault.get, hworks, hlive] at hresult
    cases hresult
  · rw [hx] at hanswer
    have hresult : (t.state.vault.consume t.state.clock key r.value).result = false :=
      hanswer.symm
    rcases Vault.consume_cases t.state.vault t.state.clock key r.value with
      ⟨-, -, -, htrue, -⟩ | ⟨hwhy, -, -⟩
    · cases htrue.symm.trans hresult
    · rcases hwhy with hout | hother
      · cases hworks.symm.trans hout
      · exact absurd rfl (hother r hlive)

/-- A check of the right code that has ended was accepted, or came too late. -/
theorem accepted_or_notFound (h : Racing s p (s.config.keyFor identity) r)
    (hstore : s.hasStore = true) {i : Nat} {response : ServiceResponse}
    (hi : p.Ended i (.check identity r.value) response) :
    response = .checked (.ok .accepted) ∨ response = .checked (.ok .notFound) := by
  obtain ⟨c, rfl, htrace⟩ := checkTrace_of_ended hstore h.traced hi
  cases c with
  | accepted => exact .inl rfl
  | notFound => exact .inr rfl
  | mismatch =>
    generalize hasked : p.asked i = asked at htrace
    cases htrace with
    | mismatch stored hne =>
      have hread : (⟨.get (s.config.keyFor identity), some stored⟩ : Exchange ServiceInterface)
          ∈ p.asked i := by
        rw [hasked]
        simp
      obtain ⟨t, ht, -, hx⟩ := Pool.exists_turn_of_asked hread
      exact absurd (h.value_of_get ht hx) hne

/-- A check that was accepted has settled the key. -/
theorem exists_settled_of_accepted (h : Racing s p (s.config.keyFor identity) r) {i : Nat}
    (hi : p.Ended i (.check identity submitted) (.checked (.ok .accepted))) :
    ∃ (n : Nat) (t : Turn ServiceInterface Site), p.turns[n]? = some t ∧ t.caller = i
      ∧ t.settled? = some (s.config.keyFor identity) := by
  obtain ⟨n, t, hn, hcaller, hused⟩ := usedUp_of_accepted h.traced hi
  exact ⟨n, t, hn, hcaller, hused.settled?⟩

/-- **At least one wins.** If a check of the right code has ended, somebody has settled the key. -/
theorem exists_settled (h : Racing s p (s.config.keyFor identity) r) (hstore : s.hasStore = true)
    {i : Nat} {response : ServiceResponse} (hi : p.Ended i (.check identity r.value) response) :
    ∃ t ∈ p.turns, t.settled? = some (s.config.keyFor identity) := by
  by_contra hnone
  have hunsettled : ∀ u ∈ p.turns, u.settled? ≠ some (s.config.keyFor identity) :=
    fun u hu hsettled => hnone ⟨u, hu, hsettled⟩
  -- Otherwise every step of this check succeeded, so it used the record up itself.
  have hsucceeds : ∀ x ∈ p.asked i, x ≠ ⟨.contains (s.config.keyFor identity), false⟩
      ∧ x ≠ ⟨.get (s.config.keyFor identity), none⟩
      ∧ x ≠ ⟨.consume (s.config.keyFor identity) r.value, false⟩ := by
    intro x hx
    obtain ⟨t, ht, -, rfl⟩ := Pool.exists_turn_of_asked hx
    exact h.answer_of_unsettled hunsettled ht
  obtain ⟨c, rfl, htrace⟩ := checkTrace_of_ended hstore h.traced hi
  generalize p.asked i = asked at htrace hsucceeds
  cases htrace with
  | absent => exact (hsucceeds _ (by simp)).1 rfl
  | vanished => exact (hsucceeds ⟨.get (s.config.keyFor identity), none⟩ (by simp)).2.1 rfl
  | tooLate =>
    exact (hsucceeds ⟨.consume (s.config.keyFor identity) r.value, false⟩ (by simp)).2.2 rfl
  | mismatch stored hne =>
    rcases h.accepted_or_notFound hstore hi with hresult | hresult <;> cases hresult
  | accepted =>
    obtain ⟨n, t, hn, -, hsettled⟩ := h.exists_settled_of_accepted hi
    exact hnone ⟨t, List.mem_of_getElem? hn, hsettled⟩

/-- Whoever uses up what is under the key uses up the record that is raced for. -/
theorem value_of_usedUp (h : Racing s p key r) (ht : t ∈ p.turns) {value : String}
    (hused : t.UsedUp key value) : value = r.value := by
  obtain ⟨fate, hanswer⟩ := h.race.honest t ht
  rw [show t.exchange = _ from hused] at hanswer
  have hresult : (t.state.vault.consume t.state.clock key value).result = true := hanswer.symm
  rcases Vault.consume_cases t.state.vault t.state.clock key value with
    ⟨r', hlive, rfl, -, -⟩ | ⟨-, hfalse, -⟩
  · rcases h.found_or_settled ht with hfound | ⟨hgone, -⟩
    · rw [Vault.live?, hfound, Option.filter_some, if_pos (h.isLive ht)] at hlive
      rw [Option.some.inj hlive]
    · rw [Vault.live?, hgone] at hlive
      cases hlive
  · cases hresult.symm.trans hfalse

/-- Whoever settles the key is a check of the right code. -/
theorem check_of_settled (h : Racing s p (s.config.keyFor identity) r) (ht : t ∈ p.turns)
    (hsettled : t.settled? = some (s.config.keyFor identity)) :
    t.UsedUp (s.config.keyFor identity) r.value
      ∧ p.call? t.caller = some (.check identity r.value) := by
  rcases Turn.settled?_cases hsettled with ⟨value, lifetime, hwrote⟩ | ⟨value, hused⟩
  · exact absurd hwrote (h.undisturbed.unwritten t ht value lifetime)
  · obtain rfl := h.value_of_usedUp ht hused
    refine ⟨hused, ?_⟩
    obtain ⟨call, hcall, hasks⟩ := h.traced.asksOnly ht (asksOnly_flow s)
    rw [show t.exchange = _ from hused] at hasks
    cases call with
    | issue identity' code => rcases hasks with hx | hx <;> cases hx
    | check identity' submitted' =>
      rcases hasks with hx | hx | hx
      · cases hx
      · cases hx
      · obtain ⟨hkey, rfl⟩ := ServiceCall.consume.inj hx
        rw [hcall, ServiceConfig.keyFor_inj.1 hkey]

/-- The check that used the record up was accepted. -/
theorem accepted_of_usedUp (h : Racing s p (s.config.keyFor identity) r)
    (hstore : s.hasStore = true) (ht : t ∈ p.turns)
    (hused : t.UsedUp (s.config.keyFor identity) r.value) {response : ServiceResponse}
    (hended : p.Ended t.caller (.check identity r.value) response) :
    response = .checked (.ok .accepted) := by
  obtain ⟨c, rfl, htrace⟩ := checkTrace_of_ended hstore h.traced hended
  have hasked := Pool.asked_of_turn ht
  rw [show t.exchange = _ from hused] at hasked
  rw [htrace.accepted_of_consumed hasked]

end Racing

/-- The store works, now and at every question so far. -/
structure Working (p : Traffic) : Prop where
  before : ∀ t ∈ p.turns, t.state.vault.outage = false
  now : p.state.vault.outage = false

theorem Working.step {p : Traffic} (h : Working p)
    {m : Move ServiceRequest (Attempt Delivery) Incident} (hm : m ≠ .change (.outage true)) :
    Working (s.arena.step p m) := by
  cases m with
  | start call => exact ⟨h.before, h.now⟩
  | change e =>
    refine ⟨h.before, ?_⟩
    cases e with
    | advance millis => exact h.now
    | purge => exact h.now
    | outage on =>
      cases on with
      | true => exact absurd rfl hm
      | false => rfl
  | proceed i fate =>
    simp only [Arena.step]
    split
    · exact ⟨h.before, h.now⟩
    · next call q next hi =>
      refine ⟨fun t ht => ?_, (Site.answer_outage fate q p.state).trans h.now⟩
      rcases List.mem_append.1 ht with ht | ht
      · exact h.before t ht
      · rw [List.mem_singleton.1 ht]
        exact h.now
    · exact h

/-- A schedule that issues nothing to the identity and starts no outage disturbs nothing. -/
theorem undisturbed_of_moves {site : Site} (hworks : site.vault.outage = false)
    {moves : List (Move ServiceRequest (Attempt Delivery) Incident)}
    (hissue : ∀ code, Move.start (.issue identity code) ∉ moves)
    (houtage : Move.change (.outage true) ∉ moves)
    (hinTime : r.isLive (s.arena.run { state := site } moves).state.clock = true) :
    Undisturbed (s.arena.run { state := site } moves) (s.config.keyFor identity) r := by
  have hworking : Working (s.arena.run { state := site } moves) :=
    s.arena.run_induction_of_mem (fun p m hm hp => hp.step fun hout => houtage (hout ▸ hm))
      ⟨by simp, hworks⟩
  refine ⟨hworking.before, fun t ht value lifetime hwrote => ?_, hinTime⟩
  obtain ⟨identity', code, hcall, hkey, -, -⟩ :=
    issue_of_wrote (Arena.traced_run site moves) ht hwrote
  obtain rfl := ServiceConfig.keyFor_inj.1 hkey
  rw [Arena.call?_run] at hcall
  obtain ⟨m, hm, hstarted⟩ := List.mem_filterMap.1 (List.mem_of_getElem? hcall)
  cases m with
  | start call =>
    obtain rfl : call = .issue identity code := Option.some.inj hstarted
    exact hissue code hm
  | proceed i fate => exact absurd hstarted nofun
  | change e => exact absurd hstarted nofun

/-- **Exactly one of the checks that race for a code is accepted.** All others come too late, and
the record is gone. -/
theorem one_of_racing_checks_wins (hstore : s.hasStore = true) (site : Site)
    (identity code : String) (deadline : Option Nat)
    (hlive : site.vault.live? (s.config.keyFor identity) site.clock = some ⟨code, deadline⟩)
    (moves : List (Move ServiceRequest (Attempt Delivery) Incident)) :
    let p := s.arena.run { state := site } moves
    let races (i : Nat) : Prop := p.call? i = some (.check identity code)
    Undisturbed p (s.config.keyFor identity) ⟨code, deadline⟩ →
    (∃ i, races i) →
    (∀ i, races i → ∃ response, p.Ended i (.check identity code) response) →
    (∃ winner, p.Ended winner (.check identity code) (.checked (.ok .accepted))
      ∧ ∀ i, races i → i ≠ winner →
        p.Ended i (.check identity code) (.checked (.ok .notFound)))
      ∧ p.state.vault.find? (s.config.keyFor identity) = none := by
  intro p races hundisturbed hsome hended
  have hfound : site.vault.find? (s.config.keyFor identity) = some ⟨code, deadline⟩ :=
    (Option.filter_eq_some_iff.1 hlive).1
  have h : Racing s p (s.config.keyFor identity) ⟨code, deadline⟩ :=
    { traced := Arena.traced_run site moves
      race := Arena.shared_run (keeps_race s _ _) (.undecided hfound (by simp)) moves
      past := (Arena.shared_run (keeps_past s) (by simp [Past]) moves).now
      undisturbed := hundisturbed }
  obtain ⟨i, hi⟩ := hsome
  obtain ⟨response, hresponse⟩ := hended i hi
  obtain ⟨u, hu, hsettled⟩ := h.exists_settled hstore hresponse
  cases h.race.now with
  | undecided found unsettled => exact absurd hsettled (unsettled u hu)
  | overwritten t ht value lifetime hwrote =>
    exact absurd hwrote (hundisturbed.unwritten t ht value lifetime)
  | expired hexpired => exact absurd (hundisturbed.inTime.symm.trans hexpired) nofun
  | decided n t there settled gone only =>
    obtain ⟨hused, hcall⟩ := h.check_of_settled (List.mem_of_getElem? there) settled
    refine ⟨⟨t.caller, ?_, ?_⟩, gone⟩
    · obtain ⟨result, hresult⟩ := hended t.caller hcall
      obtain rfl := h.accepted_of_usedUp hstore (List.mem_of_getElem? there) hused hresult
      exact hresult
    · intro j hj hne
      obtain ⟨result, hresult⟩ := hended j hj
      rcases h.accepted_or_notFound hstore hresult with rfl | rfl
      · obtain ⟨m, v, hm, hcaller, hv⟩ := h.exists_settled_of_accepted hresult
        obtain rfl := only m v hm hv
        have hsame : v = t := Option.some.inj (hm.symm.trans there)
        exact absurd (hcaller.symm.trans (congrArg Turn.caller hsame)) hne
      · exact hresult

/-- Four checks of one code: three come too late, each at another of its steps. In between a code is
issued to someone else, the vault is purged, and the last millisecond of the code has begun. -/
theorem one_of_four_checks_wins :
    let s : Service := ⟨true, "Mock", {}⟩
    let key := s.config.keyFor "a"
    let r : Record := ⟨"123456", some 5000⟩
    let site : Site := { vault := Vault.insert {} key r, clock := 4000 }
    let check : ServiceRequest := .check "a" "123456"
    let moves : List (Move ServiceRequest (Attempt Delivery) Incident) :=
      [.start check, .start check, .start check, .start check, .start (.issue "b" (Code.ofDraw 0))]
      ++ [1, 2, 3, 4, 2, 4, 3, 3].map (.proceed · (.done (.sent "1")))
      ++ [.change .purge, .change (.advance 999)]
      ++ [0, 1, 2, 4, 4, 3, 0, 2].map (.proceed · (.done (.sent "1")))
    let p := s.arena.run { state := site } moves
    s.hasStore = true ∧ site.vault.live? key site.clock = some r ∧ Undisturbed p key r
      ∧ (∃ i, p.call? i = some check)
      ∧ (∀ i, p.call? i = some check → ∃ response, p.Ended i check response)
      ∧ ∃ winner, p.Ended winner check (.checked (.ok .accepted)) := by
  intro s key r site check moves p
  have hlive : site.vault.live? key site.clock = some r := rfl
  have hundisturbed : Undisturbed p key r :=
    undisturbed_of_moves rfl (by simp [moves, check]) (by simp [moves]) (by decide +kernel)
  have hcall (i : Nat) : p.call? i
      = [check, check, check, check, ServiceRequest.issue "b" (Code.ofDraw 0)][i]? :=
    Arena.call?_run _ site moves i
  have hsome : ∃ i, p.call? i = some check := ⟨0, hcall 0⟩
  have hended : ∀ i, p.call? i = some check → ∃ response, p.Ended i check response := by
    intro i hi
    have hfour : ∀ i < 4, (p.result? i).isSome = true := by decide +kernel
    have hlt : i < 4 := by
      have hother : ServiceRequest.issue "b" (Code.ofDraw 0) ≠ check := by simp [check]
      rw [hcall] at hi
      by_contra hge
      obtain rfl | hlast : i = 4 ∨ 5 ≤ i := by omega
      · exact absurd (Option.some.inj hi) hother
      · rw [List.getElem?_eq_none hlast] at hi
        exact absurd hi nofun
    obtain ⟨response, hresponse⟩ := Option.isSome_iff_exists.1 (hfour i hlt)
    exact ⟨response, Pool.ended_iff.2 ⟨hi, hresponse⟩⟩
  obtain ⟨⟨winner, hwins, -⟩, -⟩ := one_of_racing_checks_wins rfl site "a" "123456" (some 5000)
    hlive moves hundisturbed hsome hended
  exact ⟨rfl, hlive, hundisturbed, hsome, hended, winner, hwins⟩

end Service

end Passcode
