import Mathlib.Tactic.Choose
import Passcode.Proofs.Service.Traffic

/-!
# A code is accepted at most once

Whatever the order in which the questions of concurrent requests, the passing of time, purges and
outages follow each other, every accepted check uses up a record of its own: the one that the last
write before it left under the key.

The invariant is about the records held, live or not. Each of them is *backed* by a turn of the
history that wrote it, since which nothing was written or used up under its key. It does not speak
about requests in progress: what a check has read is worth nothing until it uses the record up,
and at that moment the records decide.

## Main definitions

* `Backs` — a turn wrote a record, and nothing has settled its key since
* `Vouched` — every record held is backed

## Main statements

* `Service.keeps_vouched` — every answer and every incident keeps `Vouched`
* `Service.exists_write_of_usedUp` — the write that a used up record goes back to
* `Service.accepted_check_uses_up_own_write` — single use and freshness under every schedule
-/

namespace Passcode

variable {s : Service} {turns : List (Turn ServiceInterface Site)} {key value : String} {m : Nat}
  {r : Record} {t : Turn ServiceInterface Site}

/-! ## Records and the turns that wrote them -/

/-- Turn `m` wrote a record under a key, and no later turn has settled the key. -/
structure Backs (turns : List (Turn ServiceInterface Site)) (key : String) (r : Record) (m : Nat) :
    Prop where
  written : ∃ t lifetime, turns[m]? = some t ∧ t.Wrote key r.value lifetime
    ∧ Vault.deadline? t.state.clock lifetime = some r.deadline
  last : ∀ n t, m < n → turns[n]? = some t → t.settled? ≠ some key

/-- Every record held, live or not, is backed by a turn. -/
def Vouched (turns : List (Turn ServiceInterface Site)) (site : Site) : Prop :=
  ∀ key r, site.vault.find? key = some r → ∃ m, Backs turns key r m

theorem Backs.concat (h : Backs turns key r m) (ht : t.settled? ≠ some key) :
    Backs (turns ++ [t]) key r m where
  written := by
    obtain ⟨w, lifetime, hw, hwrote⟩ := h.written
    refine ⟨w, lifetime, ?_, hwrote⟩
    rw [List.getElem?_append_left (List.getElem?_eq_some_iff.1 hw).1]
    exact hw
  last := by
    intro n u hn hu
    rcases getElem?_concat_cases hu with hu | ⟨-, rfl⟩
    · exact h.last n u hn hu
    · exact ht

theorem backs_concat {lifetime : Int} {d : Option Nat} (ht : t.Wrote key value lifetime)
    (hd : Vault.deadline? t.state.clock lifetime = some d) :
    Backs (turns ++ [t]) key ⟨value, d⟩ turns.length where
  written := ⟨t, lifetime, List.getElem?_concat_length, ht, hd⟩
  last := by
    intro n u hn hu
    rw [List.getElem?_eq_none (by simp; omega)] at hu
    exact absurd hu (by simp)

/-- A turn that brings no record in, and settles the key of none that stays, leaves the records
backed. -/
theorem Vouched.concat {site site' : Site} (h : Vouched turns site)
    (ht : ∀ key r, site'.vault.find? key = some r →
      site.vault.find? key = some r ∧ t.settled? ≠ some key) : Vouched (turns ++ [t]) site' := by
  intro key r hr
  obtain ⟨hfound, hsettled⟩ := ht key r hr
  obtain ⟨m, hm⟩ := h key r hfound
  exact ⟨m, hm.concat hsettled⟩

/-! ## Every answer leaves the records backed -/

section Answers

variable {site : Site} (i : Nat) (fate : Attempt Delivery)

theorem Vouched.set (h : Vouched turns site) (key value : String) (lifetime : Int) :
    Vouched (turns ++ [⟨i, site, ⟨.set key value lifetime,
        (Site.answer fate (.set key value lifetime) site).result⟩⟩])
      (Site.answer fate (.set key value lifetime) site).state := by
  rcases Vault.set_cases site.vault site.clock key value lifetime with
    ⟨d, -, hd, hresult, hstate⟩ | ⟨-, hresult, hstate⟩
  · have hanswer : (Site.answer fate (.set key value lifetime) site).result = .done true :=
      congrArg Attempt.done hresult
    have hvault : (Site.answer fate (.set key value lifetime) site).state.vault
        = site.vault.insert key ⟨value, d⟩ := hstate
    rw [hanswer]
    intro k r hr
    rw [hvault] at hr
    by_cases hk : k = key
    -- This very turn is the one that wrote the record.
    · subst hk
      rw [Vault.find?_insert, Option.some.injEq] at hr
      subst hr
      exact ⟨_, backs_concat rfl hd⟩
    · rw [Vault.find?_insert_of_ne hk] at hr
      obtain ⟨m, hm⟩ := h k r hr
      refine ⟨m, hm.concat fun hsettled => hk ?_⟩
      exact (Option.some.inj hsettled).symm
  · have hanswer : (Site.answer fate (.set key value lifetime) site).result = .done false :=
      congrArg Attempt.done hresult
    have hvault : (Site.answer fate (.set key value lifetime) site).state.vault = site.vault :=
      hstate
    rw [hanswer]
    refine h.concat fun k r hr => ⟨?_, nofun⟩
    rwa [hvault] at hr

theorem Vouched.get (h : Vouched turns site) (key : String) :
    Vouched (turns ++ [⟨i, site, ⟨.get key, (Site.answer fate (.get key) site).result⟩⟩])
      (Site.answer fate (.get key) site).state := by
  refine h.concat fun k r hr => ⟨?_, nofun⟩
  have hvault : (Site.answer fate (.get key) site).state.vault = site.vault
      ∨ (Site.answer fate (.get key) site).state.vault = site.vault.dropExpired key site.clock :=
    Vault.get_cases site.vault site.clock key
  rcases hvault with hvault | hvault <;> rw [hvault] at hr
  · exact hr
  · exact Vault.find?_of_dropExpired hr

theorem Vouched.contains (h : Vouched turns site) (key : String) :
    Vouched (turns ++ [⟨i, site, ⟨.contains key, (Site.answer fate (.contains key) site).result⟩⟩])
      (Site.answer fate (.contains key) site).state := by
  refine h.concat fun k r hr => ⟨?_, nofun⟩
  have hvault : (Site.answer fate (.contains key) site).state.vault = site.vault :=
    Vault.contains_state site.vault site.clock key
  rwa [hvault] at hr

theorem Vouched.consume (h : Vouched turns site) (key expected : String) :
    Vouched (turns ++ [⟨i, site, ⟨.consume key expected,
        (Site.answer fate (.consume key expected) site).result⟩⟩])
      (Site.answer fate (.consume key expected) site).state := by
  rcases Vault.consume_cases site.vault site.clock key expected with
    ⟨r, -, -, hresult, hstate⟩ | ⟨-, hresult, hstate⟩
  · have hanswer : (Site.answer fate (.consume key expected) site).result = true := hresult
    have hvault : (Site.answer fate (.consume key expected) site).state.vault
        = site.vault.erase key := hstate
    rw [hanswer]
    refine h.concat fun k r hr => ?_
    rw [hvault] at hr
    obtain ⟨hk, hfound⟩ := Vault.find?_of_erase hr
    exact ⟨hfound, fun hsettled => hk (Option.some.inj hsettled).symm⟩
  · have hanswer : (Site.answer fate (.consume key expected) site).result = false := hresult
    have hvault : (Site.answer fate (.consume key expected) site).state.vault = site.vault
        ∨ (Site.answer fate (.consume key expected) site).state.vault
          = site.vault.dropExpired key site.clock := hstate
    rw [hanswer]
    refine h.concat fun k r hr => ⟨?_, nofun⟩
    rcases hvault with hvault | hvault <;> rw [hvault] at hr
    · exact hr
    · exact Vault.find?_of_dropExpired hr

theorem Vouched.send (h : Vouched turns site) (message : Message) :
    Vouched (turns ++ [⟨i, site, ⟨.send message, fate⟩⟩]) (site.post message fate) := by
  refine h.concat fun k r hr => ⟨?_, nofun⟩
  rwa [Site.post_vault] at hr

end Answers

theorem Vouched.after {site : Site} (h : Vouched turns site) (e : Incident) :
    Vouched turns (site.after e) := by
  intro key r hr
  cases e with
  | advance millis => exact h key r hr
  | purge => exact h key r (Vault.find?_of_purge hr)
  | outage on => exact h key r hr

namespace Service

/-- **Every answer and every incident leaves the records backed.** -/
theorem keeps_vouched (s : Service) : s.arena.Keeps Vouched where
  change _ _ e h := h.after e
  answer _ _ i q fate h :=
    match q with
    | .set key value lifetime => h.set i fate key value lifetime
    | .get key => h.get i fate key
    | .contains key => h.contains i fate key
    | .consume key expected => h.consume i fate key expected
    | .send message => h.send i fate message

/-- **The write that a used up record goes back to.** It is the last settling of the key before,
and the record was still live. -/
theorem exists_write_of_usedUp {p : Traffic} (h : s.arena.Shared Vouched p) {n : Nat}
    (hn : p.turns[n]? = some t) (ht : t.UsedUp key value) :
    ∃ m w lifetime deadline, m < n ∧ p.turns[m]? = some w ∧ w.Wrote key value lifetime
      ∧ Vault.deadline? w.state.clock lifetime = some deadline
      ∧ t.state.vault.live? key t.state.clock = some ⟨value, deadline⟩
      ∧ ∀ l u, m < l → l < n → p.turns[l]? = some u → u.settled? ≠ some key := by
  obtain ⟨i, site, exchange⟩ := t
  obtain rfl : exchange = ⟨.consume key value, true⟩ := ht
  obtain ⟨fate, hanswer⟩ := h.honest _ (List.mem_of_getElem? hn)
  have hlive : ∃ r, site.vault.live? key site.clock = some r ∧ r.value = value := by
    rcases Vault.consume_cases site.vault site.clock key value with
      ⟨r, hr, hvalue, -, -⟩ | ⟨-, hfalse, -⟩
    · exact ⟨r, hr, hvalue⟩
    · exact absurd (hanswer.trans hfalse) (by simp)
  obtain ⟨⟨_, deadline⟩, hr, rfl⟩ := hlive
  have hfound : site.vault.find? key = some ⟨_, deadline⟩ := (Option.filter_eq_some_iff.1 hr).1
  -- The records were backed by the turns before `n`, so the write is one of those.
  obtain ⟨m, hm⟩ := h.before n _ hn key _ hfound
  obtain ⟨w, lifetime, hw, hwrote, hd⟩ := hm.written
  have hmn : m < n := by
    have hlength := (List.getElem?_eq_some_iff.1 hw).1
    rw [List.length_take] at hlength
    omega
  rw [List.getElem?_take_of_lt hmn] at hw
  refine ⟨m, w, lifetime, deadline, hmn, hw, hwrote, hd, hr, fun l u hml hln hu => ?_⟩
  exact hm.last l u hml (by rwa [List.getElem?_take_of_lt hln])

/-- How an accepted check came about: turn `n` of check `i` used up the record that turn `m` wrote
for an issuance. -/
structure Provenance (s : Service) (p : Traffic) (i : Nat) (identity submitted : String) (m n : Nat)
    (written used : Turn ServiceInterface Site) (code : Code) : Prop where
  used_at : p.turns[n]? = some used
  used_by : used.caller = i
  usedUp : used.UsedUp (s.config.keyFor identity) submitted
  lt : m < n
  written_at : p.turns[m]? = some written
  wrote : written.Wrote (s.config.keyFor identity) code.text s.config.codeLifetime
  /-- The write belongs to an issuance of this code for the same identity. -/
  issued : p.call? written.caller = some (.issue identity code)
  submitted_eq : submitted = code.text
  /-- No write under the key came later, up to the use. -/
  last : ∀ l t value lifetime, l < n → p.turns[l]? = some t →
    t.Wrote (s.config.keyFor identity) value lifetime → l ≤ m
  /-- The use came before the deadline. -/
  inTime : 0 < s.config.codeLifetime → used.state.clock
    < written.state.clock + s.config.codeLifetime.toNat * millisPerSecond
  /-- What was used up is the record that was written. -/
  record : ∃ deadline, Vault.deadline? written.state.clock s.config.codeLifetime = some deadline
    ∧ used.state.vault.live? (s.config.keyFor identity) used.state.clock
      = some ⟨code.text, deadline⟩
  /-- Nothing was written or used up under the key in between. -/
  untouched : ∀ l u, m < l → l < n → p.turns[l]? = some u →
    u.settled? ≠ some (s.config.keyFor identity)

theorem provenance_of_accepted {p : Traffic} (hp : s.arena.Traced p)
    (hv : s.arena.Shared Vouched p) {i : Nat} {identity submitted : String}
    (h : p.Ended i (.check identity submitted) (.checked (.ok .accepted))) :
    ∃ m n written used code, s.Provenance p i identity submitted m n written used code := by
  obtain ⟨n, used, hn, hcaller, hused⟩ := usedUp_of_accepted hp h
  obtain ⟨m, written, lifetime, deadline, hmn, hm, hwrote, hd, hlive, hbetween⟩ :=
    exists_write_of_usedUp hv hn hused
  obtain ⟨identity', code, hissue, hkey, rfl, rfl⟩ :=
    issue_of_wrote hp (List.mem_of_getElem? hm) hwrote
  obtain rfl := ServiceConfig.keyFor_inj.1 hkey
  refine ⟨m, n, written, used, code, hn, hcaller, hused, hmn, hm, hwrote, hissue, rfl, ?_, ?_,
    ⟨deadline, hd, hlive⟩, hbetween⟩
  · intro l t value lifetime hln ht hwrote'
    by_contra hml
    exact hbetween l t (by omega) hln ht hwrote'.settled?
  · intro hpos
    have hafter : deadline
        = some (written.state.clock + s.config.codeLifetime.toNat * millisPerSecond) :=
      Vault.eq_of_deadline? hpos hd
    subst hafter
    simpa [Record.isLive] using Vault.isLive_of_view hlive

/-- One turn explains an accepted check, whatever it is said to have been a check of. -/
theorem exists_source {p : Traffic} (hp : s.arena.Traced p) (hv : s.arena.Shared Vouched p)
    (i : Nat) :
    ∃ m, ∀ identity submitted,
      p.Ended i (.check identity submitted) (.checked (.ok .accepted)) →
      ∃ n written used code, s.Provenance p i identity submitted m n written used code := by
  by_cases hi : ∃ identity submitted,
      p.Ended i (.check identity submitted) (.checked (.ok .accepted))
  · obtain ⟨identity, submitted, hended⟩ := hi
    obtain ⟨m, hm⟩ := provenance_of_accepted hp hv hended
    refine ⟨m, fun identity' submitted' hended' => ?_⟩
    -- A call is a check of one thing only.
    cases Option.some.inj (hended.call?.symm.trans hended'.call?)
    exact hm
  · exact ⟨0, fun identity submitted hended => absurd ⟨identity, submitted, hended⟩ hi⟩

/-- Two checks cannot go back to the same write: the later one would find it used up. -/
theorem Provenance.caller_inj {p : Traffic} {i j n n' : Nat}
    {identity identity' submitted submitted' : String}
    {written written' used used' : Turn ServiceInterface Site} {code code' : Code}
    (h : s.Provenance p i identity submitted m n written used code)
    (h' : s.Provenance p j identity' submitted' m n' written' used' code') : i = j := by
  have hsame : written = written' := Option.some.inj (h.written_at.symm.trans h'.written_at)
  have hkey : s.config.keyFor identity = s.config.keyFor identity' := by
    have hsettled := h.wrote.settled?
    rw [hsame, h'.wrote.settled?] at hsettled
    exact (Option.some.inj hsettled).symm
  rcases Nat.lt_trichotomy n n' with hlt | rfl | hgt
  · exact absurd h.usedUp.settled? (hkey ▸ h'.untouched n used h.lt hlt h.used_at)
  · have hused : used = used' := Option.some.inj (h.used_at.symm.trans h'.used_at)
    rw [← h.used_by, hused, h'.used_by]
  · exact absurd h'.usedUp.settled? (hkey ▸ h.untouched n' used' h'.lt hgt h'.used_at)

/-- **Single use and freshness.** Under every schedule of issuances and checks over a vault that
was empty at first, every accepted check goes back to a write of its own. -/
theorem accepted_check_uses_up_own_write (s : Service) (start : Nat) (outage : Bool)
    (moves : List (Move ServiceRequest (Attempt Delivery) Incident)) :
    let p := s.arena.run { state := { vault := { outage }, clock := start } } moves
    ∃ source : Nat → Nat,
      (∀ i identity submitted,
        p.Ended i (.check identity submitted) (.checked (.ok .accepted)) →
        ∃ n written used code,
          s.Provenance p i identity submitted (source i) n written used code)
      ∧ ∀ i j identity identity' submitted submitted',
        p.Ended i (.check identity submitted) (.checked (.ok .accepted)) →
        p.Ended j (.check identity' submitted') (.checked (.ok .accepted)) →
        source i = source j → i = j := by
  intro p
  have hp : s.arena.Traced p := Arena.traced_run _ moves
  have hv : s.arena.Shared Vouched p :=
    Arena.shared_run (keeps_vouched s) (fun key r hr => absurd hr (by simp [Vault.find?])) moves
  choose source hsource using exists_source hp hv
  refine ⟨source, hsource, ?_⟩
  intro i j identity identity' submitted submitted' hi hj hij
  obtain ⟨n, written, used, code, h⟩ := hsource i identity submitted hi
  obtain ⟨n', written', used', code', h'⟩ := hsource j identity' submitted' hj
  exact h.caller_inj (hij ▸ h')

-- Two checks of one code that take turns: both read the record, and one of them uses it up.
example :
    let s : Service := ⟨true, "Mock", {}⟩
    let p := s.arena.run { state := { clock := 0 } } <|
      [.start (.issue "a" (Code.ofDraw 0)), .start (.check "a" "100000"),
        .start (.check "a" "100000")]
      ++ [0, 0, 0, 0, 1, 2, 1, 2, 2, 1, 2, 1].map (.proceed · (.done (.sent "1")))
    p.Ended 1 (.check "a" "100000") (.checked (.ok .notFound))
      ∧ p.Ended 2 (.check "a" "100000") (.checked (.ok .accepted)) :=
  ⟨rfl, rfl⟩

end Service

end Passcode
