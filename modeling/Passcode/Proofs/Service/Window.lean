import Passcode.Proofs.Service.Run

/-!
# How long a code is valid

A diary of a service that works request by request: what was issued and checked, with the results,
while time passed and the vault was purged in between. What the next check of an identity answers
can be told from the diary alone. The last episode that settled the identity decides, and if that
is an issuance, so does the time since.

## Main definitions

* `Act` — a request, a purge, or a while in which time passes
* `Diary` — the site of a service, and what happened there
* `Episode.settles` — an issuance that stored its code, or an accepted check
* `Diary.last?` — the last episode that settled an identity

## Main statements

* `Service.Kept.act` — every act leaves the diary in accord with the site
* `Service.check_answers_by_last_issue` — the validity window of a code
-/

namespace Passcode

open Function

/-! ## Diaries -/

/-- Something that happens at the site of a service. -/
inductive Act where
  /-- Issue a code, the channel doing `fate` to the message. -/
  | issue (identity : String) (code : Code) (fate : Delivery)
  | check (identity submitted : String)
  | purge
  | advance (millis : Nat)

/-- A request that has been served. -/
inductive Episode where
  | issued (time : Nat) (identity : String) (code : Code) (outcome : Outcome)
  | checked (identity : String) (result : Except DomainFault CodeCheck)

/-- Whether an episode settled an identity: its code was stored, or used up. -/
def Episode.settles (identity : String) : Episode → Bool
  | .issued _ i _ outcome => i = identity ∧ (outcome = .success ∨ outcome = .deliveryError)
  | .checked i (.ok .accepted) => i = identity
  | .checked _ _ => false

/-- The site of a service, and what happened there, the latest episode first. -/
structure Diary where
  site : Site
  episodes : List Episode := []

namespace Diary

/-- The last episode that settled an identity. -/
def last? (d : Diary) (identity : String) : Option Episode :=
  d.episodes.find? (·.settles identity)

/-- The last message that the channel accepted for an identity. -/
def lastMessage? (d : Diary) (identity : String) : Option Message :=
  d.site.accepted.find? (·.recipient = identity)

variable {d : Diary} {e : Episode} {identity : String}

theorem last?_of_settles (h : e.settles identity = true) (site : Site) (episodes : List Episode) :
    (⟨site, e :: episodes⟩ : Diary).last? identity = some e :=
  List.find?_cons_of_pos h

theorem last?_of_not_settles (h : e.settles identity = false) (site : Site) (d : Diary) :
    (⟨site, e :: d.episodes⟩ : Diary).last? identity = d.last? identity :=
  List.find?_cons_of_neg (by simp [h])

end Diary

namespace Service

variable {s : Service} {d : Diary}

/-- The diary after one more act. -/
def act (s : Service) (d : Diary) : Act → Diary
  | .issue identity code fate =>
    let r := (s.issue identity code).run (Site.answer (.done fate)) d.site
    ⟨r.state, .issued d.site.clock identity code r.result.outcome :: d.episodes⟩
  | .check identity submitted =>
    -- A check sends nothing, so it does not matter what the channel would do.
    let r := (s.check identity submitted).run (Site.answer (.panicked none)) d.site
    ⟨r.state, .checked identity r.result :: d.episodes⟩
  | .purge => { d with site := d.site.purge }
  | .advance millis => { d with site := d.site.advance millis }

/-- The diary of a service that started at a site. -/
def diary (s : Service) (site : Site) (acts : List Act) : Diary := acts.foldl s.act { site }

/-- Whether a code stored at time `t` is valid at time `u`. -/
def Valid (s : Service) (t u : Nat) : Prop :=
  s.config.codeLifetime ≤ 0 ∨ u < t + s.config.codeLifetime.toNat * millisPerSecond

/-- The record of a code that was stored at time `t`. -/
def recordOf (s : Service) (t : Nat) (code : Code) : Record where
  value := code.text
  deadline :=
    if s.config.codeLifetime ≤ 0 then none
    else some (t + s.config.codeLifetime.toNat * millisPerSecond)

theorem isLive_recordOf {t u : Nat} {code : Code} :
    (s.recordOf t code).isLive u = true ↔ s.Valid t u := by
  unfold recordOf Valid Record.isLive
  by_cases h : s.config.codeLifetime ≤ 0
  · simp [h]
  · simp [h]

theorem recordOf_eq {t : Nat} {deadline : Option Nat}
    (h : Vault.deadline? t s.config.codeLifetime = some deadline) (code : Code) :
    (⟨code.text, deadline⟩ : Record) = s.recordOf t code := by
  unfold recordOf
  congr
  by_cases hpos : s.config.codeLifetime ≤ 0
  · rw [if_pos hpos]
    exact Vault.eq_none_of_deadline? hpos h
  · rw [if_neg hpos]
    exact Vault.eq_of_deadline? (by omega) h

/-- What the diary says is under the key of an identity: the record of its last issuance, unless
that was used up. -/
def standing? (s : Service) (d : Diary) (identity : String) : Option Record :=
  match d.last? identity with
  | some (.issued t _ code _) => some (s.recordOf t code)
  | _ => none

/-- The diary accords with the site: what it says is under a key is what can be seen there, and
what it says was delivered is what the channel accepted. -/
structure Kept (s : Service) (d : Diary) : Prop where
  works : d.site.vault.outage = false
  view : ∀ identity, d.site.vault.view d.site.clock (s.config.keyFor identity)
    = (s.standing? d identity).filter (·.isLive d.site.clock)
  mailed : ∀ identity t i code, d.last? identity = some (.issued t i code .success) →
    d.lastMessage? identity = some (s.config.template.render identity code)

/-! ## Every act keeps the accord -/

theorem kept_start (s : Service) (start : Nat) : s.Kept { site := { clock := start } } where
  works := rfl
  view _ := rfl
  mailed := nofun

/-- A request that settles nothing and leaves the live records and the messages as they are. -/
theorem Kept.unsettled (h : s.Kept d) {site : Site} {e : Episode}
    (he : ∀ identity, e.settles identity = false)
    (hshows : site.Shows (d.site.vault.view d.site.clock)) (hclock : site.clock = d.site.clock)
    (haccepted : site.accepted = d.site.accepted) : s.Kept ⟨site, e :: d.episodes⟩ where
  works := hshows.works
  view identity := by
    rw [standing?, Diary.last?_of_not_settles (he identity)]
    exact (congrFun hshows.view _).trans (hclock ▸ h.view identity)
  mailed identity t i code hlast := by
    rw [Diary.last?_of_not_settles (he identity)] at hlast
    rw [Diary.lastMessage?, haccepted]
    exact h.mailed identity t i code hlast

/-- A request that settles one identity, leaving `r?` under its key, and every other as it is. -/
theorem Kept.settled (h : s.Kept d) {site : Site} {e : Episode} {identity : String}
    {r? : Option Record} (he : ∀ i, e.settles i = decide (identity = i))
    (hshows : site.Shows (update (d.site.vault.view d.site.clock)
      (s.config.keyFor identity) r?)) (hclock : site.clock = d.site.clock)
    (hr : (s.standing? ⟨site, e :: d.episodes⟩ identity).filter (·.isLive site.clock) = r?)
    (hmessage : ∀ t i code, e = .issued t i code .success →
      site.accepted.find? (·.recipient = identity) = some (s.config.template.render identity code))
    (hothers : ∀ i, identity ≠ i →
      site.accepted.find? (·.recipient = i) = d.site.accepted.find? (·.recipient = i)) :
    s.Kept ⟨site, e :: d.episodes⟩ where
  works := hshows.works
  view i := by
    rw [show site.vault.view site.clock = _ from hshows.view]
    by_cases hi : identity = i
    · subst hi
      rw [update_self]
      exact hr.symm
    · have hkey : s.config.keyFor i ≠ s.config.keyFor identity :=
        fun hsame => hi (ServiceConfig.keyFor_inj.1 hsame).symm
      rw [update_of_ne hkey, h.view i, standing?, standing?,
        Diary.last?_of_not_settles (by simp [he, hi]), hclock]
  mailed i t j code hlast := by
    by_cases hi : identity = i
    · subst hi
      rw [Diary.last?_of_settles (by simp [he])] at hlast
      exact hmessage t j code (Option.some.inj hlast)
    · rw [Diary.last?_of_not_settles (by simp [he, hi])] at hlast
      exact (hothers i hi).trans (h.mailed i t j code hlast)

theorem settles_issued (t : Nat) (identity : String) (code : Code) (fate : Delivery) (i : String) :
    (Episode.issued t identity code (outcomeOf fate)).settles i = decide (identity = i) := by
  cases fate <;> simp [Episode.settles, outcomeOf]

/-- An issuance that stored its code. -/
theorem Kept.stored (h : s.Kept d) {site : Site} {identity : String} {code : Code}
    {fate : Delivery} (hshows : site.Shows (update (d.site.vault.view d.site.clock)
      (s.config.keyFor identity) (some (s.recordOf d.site.clock code))))
    (hlive : (s.recordOf d.site.clock code).isLive d.site.clock = true)
    (hclock : site.clock = d.site.clock)
    (haccepted : site.accepted
      = (d.site.post (s.config.template.render identity code) (.done fate)).accepted) :
    s.Kept ⟨site, .issued d.site.clock identity code (outcomeOf fate) :: d.episodes⟩ := by
  refine h.settled (settles_issued _ identity code fate) hshows hclock ?_ ?_ ?_
  · rw [standing?, Diary.last?_of_settles (by simp [settles_issued]), hclock]
    exact Option.filter_eq_some_iff.2 ⟨rfl, hlive⟩
  · intro t i c hsame
    obtain ⟨-, -, rfl, hsuccess⟩ := Episode.issued.inj hsame
    rw [haccepted]
    cases fate with
    | sent id => exact List.find?_cons_of_pos (by simp [Template.render])
    | failed reason => exact absurd hsuccess nofun
  · intro i hi
    rw [haccepted]
    cases fate with
    | sent id => exact List.find?_cons_of_neg (by simp [Template.render, hi])
    | failed reason => rfl

/-- A check that used up the code. -/
theorem Kept.usedUp (h : s.Kept d) {site : Site} {identity : String}
    (hshows : site.Shows (update (d.site.vault.view d.site.clock)
      (s.config.keyFor identity) none))
    (hclock : site.clock = d.site.clock) (haccepted : site.accepted = d.site.accepted) :
    s.Kept ⟨site, .checked identity (.ok .accepted) :: d.episodes⟩ := by
  refine h.settled (fun i => rfl) hshows hclock ?_ nofun (fun i _ => by rw [haccepted])
  rw [standing?, Diary.last?_of_settles (by simp [Episode.settles])]
  rfl

/-- **One act.** -/
theorem Kept.act (hstore : s.hasStore = true) (h : s.Kept d) (a : Act) : s.Kept (s.act d a) := by
  have hsite : d.site.Shows (d.site.vault.view d.site.clock) := ⟨h.works, rfl⟩
  cases a with
  | issue identity code fate =>
    have hrun := run_issue hstore hsite identity code fate
    cases hd : Vault.deadline? d.site.clock s.config.codeLifetime with
    | none =>
      rw [hd] at hrun
      obtain ⟨houtcome, hshows, hclock, haccepted⟩ := hrun
      rw [Service.act, houtcome]
      exact h.unsettled (fun i => by simp [Episode.settles]) hshows hclock haccepted
    | some deadline =>
      rw [hd] at hrun
      obtain ⟨houtcome, hshows, hclock, haccepted⟩ := hrun
      have hrecord := recordOf_eq hd code
      have hlive : (⟨code.text, deadline⟩ : Record).isLive d.site.clock = true :=
        Vault.isLive_of_deadline? hd
      rw [hrecord] at hshows hlive
      rw [Service.act, houtcome]
      exact h.stored hshows hlive hclock haccepted
  | check identity submitted =>
    obtain ⟨hresult, hshows, hclock, haccepted⟩ :=
      run_check hstore hsite identity submitted (.panicked none)
    rw [Service.act, hresult]
    rw [Ideal.afterCheck] at hshows
    cases hverdict : CodeCheck.verdict
        (d.site.vault.view d.site.clock (s.config.keyFor identity)) submitted with
    | accepted =>
      rw [hverdict, if_pos rfl] at hshows
      exact h.usedUp hshows hclock haccepted
    | mismatch | notFound =>
      rw [hverdict, if_neg (by decide)] at hshows
      exact h.unsettled (fun i => rfl) hshows hclock haccepted
  | purge =>
    have hpurged := hsite.purge
    exact ⟨hpurged.works, fun i => (congrFun hpurged.view _).trans (h.view i), h.mailed⟩
  | advance millis =>
    have hlater := hsite.advance millis
    refine ⟨hlater.works, fun i => (congrFun hlater.view _).trans ?_, h.mailed⟩
    rw [Ideal.elapse, h.view i]
    exact Record.filter_isLive_of_le (Nat.le_add_right _ _) _

theorem kept_diary (hstore : s.hasStore = true) (start : Nat) (acts : List Act) :
    s.Kept (s.diary { clock := start } acts) := by
  have hrun : ∀ d, s.Kept d → s.Kept (acts.foldl s.act d) := by
    induction acts with
    | nil => exact fun d h => h
    | cons a acts ih => exact fun d h => ih _ (h.act hstore a)
  exact hrun _ (kept_start s start)

/-! ## The window -/

/-- The verdict on a code that was stored at time `t` and not used up. -/
theorem verdict_recordOf (s : Service) (t now : Nat) (code : Code) (submitted : String) :
    let verdict := CodeCheck.verdict ((some (s.recordOf t code)).filter (·.isLive now)) submitted
    (verdict = .accepted ↔ submitted = code.text ∧ s.Valid t now)
      ∧ (verdict = .mismatch ↔ submitted ≠ code.text ∧ s.Valid t now)
      ∧ (verdict = .notFound ↔ ¬s.Valid t now) := by
  intro verdict
  by_cases hvalid : s.Valid t now
  · have hlive : (some (s.recordOf t code)).filter (·.isLive now) = some (s.recordOf t code) :=
      Option.filter_eq_some_iff.2 ⟨rfl, isLive_recordOf.2 hvalid⟩
    by_cases hsame : submitted = code.text
    · have hverdict : verdict = .accepted := by
        simp only [verdict, hlive, CodeCheck.verdict]
        exact if_pos hsame.symm
      simp [hverdict, hsame, hvalid]
    · have hverdict : verdict = .mismatch := by
        simp only [verdict, hlive, CodeCheck.verdict]
        exact if_neg (Ne.symm hsame)
      simp [hverdict, hsame, hvalid]
  · have hexpired : (some (s.recordOf t code)).filter (·.isLive now) = none :=
      Option.filter_eq_none_iff.2 fun r hr hlive => hvalid <| by
        cases hr
        exact isLive_recordOf.1 hlive
    have hverdict : verdict = .notFound := by
      simp only [verdict, hexpired, CodeCheck.verdict]
    simp [hverdict, hvalid]

/-- **The validity window of a code.** At any time, the last issuance that stored its code decides
what a check of its identity answers, unless that code has been used up; before the deadline the
code is accepted and everything else is a mismatch, whatever else was submitted, issued or checked
since, and whether or not the message was delivered. -/
theorem check_answers_by_last_issue (hstore : s.hasStore = true) (start : Nat) (acts : List Act)
    (identity submitted : String) (fate : Attempt Delivery) :
    let d := s.diary { clock := start } acts
    let now := d.site.clock
    let answer := ((s.check identity submitted).run (Site.answer fate) d.site).result
    match d.last? identity with
    | some (.issued t _ code outcome) =>
      (answer = .ok .accepted ↔ submitted = code.text ∧ s.Valid t now)
        ∧ (answer = .ok .mismatch ↔ submitted ≠ code.text ∧ s.Valid t now)
        ∧ (answer = .ok .notFound ↔ ¬s.Valid t now)
        ∧ (s.Valid t now →
          d.site.vault.live? (s.config.keyFor identity) now = some (s.recordOf t code))
        ∧ (outcome = .success →
          d.lastMessage? identity = some (s.config.template.render identity code))
    | _ => answer = .ok .notFound := by
  intro d now answer
  have hkept : s.Kept d := kept_diary hstore start acts
  have hanswer : answer = .ok (.verdict (d.site.vault.view now (s.config.keyFor identity))
      submitted) := (run_check hstore ⟨hkept.works, rfl⟩ identity submitted fate).result
  have hview : d.site.vault.view now (s.config.keyFor identity)
      = (s.standing? d identity).filter (·.isLive now) := hkept.view identity
  rw [hanswer]
  simp only [Except.ok.injEq]
  rw [standing?] at hview
  split
  · next t i code outcome hlast =>
    rw [hlast] at hview
    rw [hview]
    obtain ⟨haccepted, hmismatch, hnotFound⟩ := verdict_recordOf s t now code submitted
    refine ⟨haccepted, hmismatch, hnotFound, fun hvalid => ?_, ?_⟩
    · exact hview.trans (Option.filter_eq_some_iff.2 ⟨rfl, isLive_recordOf.2 hvalid⟩)
    · rintro rfl
      exact hkept.mailed identity t i code hlast
  · next hother =>
    have hnone : d.site.vault.view now (s.config.keyFor identity) = none := by
      refine hview.trans ?_
      split
      · next t i code outcome hlast => exact absurd hlast (hother t i code outcome)
      · rfl
    rw [hnone]
    rfl

/-- A code whose message was refused, at the last moment of its ten minutes, after a wrong guess, a
purge and a code for someone else. -/
theorem undelivered_code_accepted_at_last_moment :
    let s : Service := ⟨true, "Mock", {}⟩
    let acts := [.issue "a" (Code.ofDraw 0) (.failed "mailbox full"), .check "a" "999999", .purge,
      .issue "b" (Code.ofDraw 1) (.sent "1"), .advance 599999]
    let d := s.diary { clock := 0 } acts
    s.hasStore = true
      ∧ d.last? "a" = some (.issued 0 "a" (Code.ofDraw 0) .deliveryError)
      ∧ ((s.check "a" "100000").run (Site.answer (.panicked none)) d.site).result
        = .ok .accepted := by
  intro s acts d
  have hlast : d.last? "a" = some (.issued 0 "a" (Code.ofDraw 0) .deliveryError) := rfl
  have hwindow := check_answers_by_last_issue (s := s) rfl 0 acts "a" "100000" (.panicked none)
  exact ⟨rfl, hlast, hwindow.1.2 ⟨rfl, .inr (by decide)⟩⟩

end Service

end Passcode
