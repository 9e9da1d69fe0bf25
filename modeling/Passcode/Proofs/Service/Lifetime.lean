import Passcode.Proofs.Service.Site
import Passcode.Proofs.Store.Interchange
import Passcode.Proofs.Text.Integer

/-!
# The lifetime of a code, kept and announced

The lifetime of the settings goes three ways: it is checked against a maximum when the settings are
loaded, the vault computes the deadline of a record from it, and the message tells it in minutes.
These agree. A lifetime that passed the check can always be kept, the record has the deadline that
it means, and the message tells the truth about the record.

A message makes one announcement at most, since a sentence of this kind has its only capital at
its start.

## Main definitions

* `Announcement` — what a message may say about the validity of a code
* `Message.Announces` — both bodies of a message end by saying so

## Main statements

* `Message.Announces.unique` — a message does not announce two things
* `Template.render_announces` — what a rendered message announces
* `Service.lifetime_is_kept_and_announced` — every issuance under settings without a complaint
-/

namespace Passcode

/-! ## Announcements -/

/-- What is said about the validity of a code. -/
inductive Announcement where
  /-- The code does not expire. -/
  | never
  | minutes (n : Int)
deriving Repr, DecidableEq

/-- The sentence that says so. -/
def Announcement.sentence : Announcement → String
  | never => "It does not expire until used."
  | minutes 1 => "It is valid for 1 minute."
  | minutes n => "It is valid for " ++ toString n ++ " minutes."

/-- Both bodies of a message end by saying so. -/
structure Message.Announces (m : Message) (a : Announcement) : Prop where
  text : ∃ before, m.text = before ++ ". " ++ a.sentence
  html : ∃ before, m.html? = some (before ++ ". " ++ a.sentence ++ "</p>")

namespace Announcement

/-- The word for a number of minutes, with the full stop. -/
def unit (n : Int) : String := if n = 1 then " minute." else " minutes."

theorem sentence_minutes (n : Int) :
    (minutes n).sentence = "It is valid for " ++ toString n ++ unit n := by
  by_cases hn : n = 1
  · subst hn
    rfl
  · rw [unit, if_neg hn, sentence]
    exact fun h => hn h

theorem toList_sentence_minutes (n : Int) :
    (minutes n).sentence.toList
      = "It is valid for ".toList ++ (toString n).toList ++ (unit n).toList := by
  rw [sentence_minutes, String.toList_append, String.toList_append]

/-- A number that is written out has no capital and no blank. -/
theorem not_mem_toString (n : Int) :
    'I' ∉ (toString n).toList ∧ ' ' ∉ (toString n).toList := by
  constructor <;> exact fun h => absurd (Text.isDigit_of_mem_toString h) (by decide)

theorem toList_unit (n : Int) : ∃ rest, (unit n).toList = ' ' :: rest ∧ 'I' ∉ rest := by
  unfold unit
  split
  · exact ⟨"minute.".toList, by decide, by decide⟩
  · exact ⟨"minutes.".toList, by decide, by decide⟩

/-- A sentence has its only capital at its start. -/
theorem toList_sentence (a : Announcement) :
    ∃ rest, a.sentence.toList = 'I' :: rest ∧ 'I' ∉ rest := by
  cases a with
  | never => exact ⟨"t does not expire until used.".toList, by decide, by decide⟩
  | minutes n =>
    obtain ⟨rest, hunit, hrest⟩ := toList_unit n
    have hstart : "It is valid for ".toList = 'I' :: "t is valid for ".toList := by decide
    refine ⟨"t is valid for ".toList ++ (toString n).toList ++ ' ' :: rest, ?_, ?_⟩
    · rw [toList_sentence_minutes, hstart, hunit]
      rfl
    · have hfor : 'I' ∉ "t is valid for ".toList := by decide
      simp only [List.mem_append, List.mem_cons, not_or]
      exact ⟨⟨hfor, (not_mem_toString n).1⟩, by decide, hrest⟩

/-- Different numbers are announced by different sentences. -/
theorem eq_of_sentence_minutes {n k : Int} (h : (minutes n).sentence = (minutes k).sentence) :
    n = k := by
  have hlists := congrArg String.toList h
  rw [toList_sentence_minutes, toList_sentence_minutes, List.append_assoc, List.append_assoc,
    List.append_cancel_left_eq] at hlists
  -- The number is what comes before the next blank.
  have hbefore (n : Int) : ((toString n).toList ++ (unit n).toList).takeWhile (· ≠ ' ')
      = (toString n).toList := by
    obtain ⟨rest, hunit, -⟩ := toList_unit n
    have hblank : ∀ c ∈ (toString n).toList, decide (c ≠ ' ') = true := by
      intro c hc
      simpa using ne_of_mem_of_not_mem hc (not_mem_toString n).2
    rw [hunit, List.takeWhile_append_of_pos hblank]
    simp
  have hdigits : (toString n).toList = (toString k).toList := by
    rw [← hbefore n, hlists, hbefore k]
  have hread := Text.signed?_toString n
  rw [hdigits, Text.signed?_toString k] at hread
  exact (Option.some.inj hread).symm

theorem sentence_never_ne (n : Int) : never.sentence ≠ (minutes n).sentence := by
  intro h
  have hlists := congrArg String.toList h
  have hnever : never.sentence.toList
      = ['I', 't', ' ', 'd'] ++ "oes not expire until used.".toList := by decide
  have hvalid : "It is valid for ".toList = ['I', 't', ' ', 'i'] ++ "s valid for ".toList := by
    decide
  rw [toList_sentence_minutes, hnever, hvalid] at hlists
  simp at hlists

/-- Different announcements are made by different sentences. -/
theorem sentence_injective {a b : Announcement} (h : a.sentence = b.sentence) : a = b := by
  cases a with
  | never =>
    cases b with
    | never => rfl
    | minutes k => exact absurd h (sentence_never_ne k)
  | minutes n =>
    cases b with
    | never => exact absurd h.symm (sentence_never_ne n)
    | minutes k => rw [eq_of_sentence_minutes h]

end Announcement

/-- What follows the last occurrence of a letter is determined by the whole. -/
theorem eq_after_last {α : Type} {c : α} {xs ys rest tail : List α} (hrest : c ∉ rest)
    (htail : c ∉ tail) (h : xs ++ c :: rest = ys ++ c :: tail) : rest = tail := by
  have haside {zs l r : List α} (hr : c ∉ l) (h : c :: l = zs ++ c :: r) : l = r := by
    cases zs with
    | nil => exact (List.cons.inj h).2
    | cons z zs =>
      refine absurd ?_ hr
      rw [(List.cons.inj h).2]
      simp
  rcases List.append_eq_append_iff.1 h with ⟨zs, -, h⟩ | ⟨zs, -, h⟩
  · exact haside hrest h
  · exact (haside htail h).symm

/-- A message does not announce two things. -/
theorem Message.Announces.unique {m : Message} {a b : Announcement} (ha : m.Announces a)
    (hb : m.Announces b) : a = b := by
  obtain ⟨xs, hxs⟩ := ha.text
  obtain ⟨ys, hys⟩ := hb.text
  obtain ⟨rest, hrest, hfree⟩ := a.toList_sentence
  obtain ⟨tail, htail, hfree'⟩ := b.toList_sentence
  have hlists := congrArg String.toList (hxs.symm.trans hys)
  simp only [String.toList_append, hrest, htail] at hlists
  refine Announcement.sentence_injective (String.toList_inj.1 ?_)
  rw [hrest, htail, eq_after_last hfree hfree' hlists]

/-! ## What a rendered message announces -/

namespace Template

variable {t : Template}

/-- The announcement of a template. -/
def announcement (t : Template) : Announcement :=
  match t.minutes? with
  | some n => .minutes n
  | none => .never

theorem validity_eq (t : Template) : t.validity = t.announcement.sentence := by
  unfold validity announcement
  generalize t.minutes? = minutes?
  split
  · rfl
  · next n hn =>
    rw [Announcement.sentence]
    · rfl
    · exact hn
  · rfl

/-- **A rendered message announces what its template does**, and nothing else. -/
theorem render_announces (t : Template) (identity : String) (code : Code) (a : Announcement) :
    (t.render identity code).Announces a ↔ a = t.announcement := by
  have hannounces : (t.render identity code).Announces t.announcement := by
    refine ⟨⟨"Your " ++ t.productName ++ " verification code is " ++ code.text, ?_⟩,
      ⟨"<p>Your " ++ t.productName ++ " verification code is <strong>" ++ code.text
        ++ "</strong>", ?_⟩⟩
    · rw [← validity_eq]
      rfl
    · have hstrong : "</strong>. " = "</strong>" ++ ". " := rfl
      simp only [← validity_eq, render, hstrong, String.append_assoc]
  constructor
  · exact fun h => h.unique hannounces
  · rintro rfl
    exact hannounces

theorem announcement_of_nonpos (h : t.lifetime ≤ 0) : t.announcement = .never := by
  rw [announcement, minutes?, if_neg (by omega)]

/-- The number of minutes is the lifetime, rounded up. -/
theorem announcement_of_pos (h : 0 < t.lifetime) (hle : t.lifetime ≤ Settings.maxLifetime.toInt) :
    ∃ n, t.announcement = .minutes n ∧ 60 * (n - 1) < t.lifetime ∧ t.lifetime ≤ 60 * n := by
  have hmax : Settings.maxLifetime.toInt = 2592000 := rfl
  have hseconds : maxSeconds = 9223372036854775807 := by decide
  rw [announcement, minutes?, if_pos h]
  exact ⟨_, rfl, by omega, by omega⟩

end Template

/-! ## Issuing -/

namespace Service

variable {s : Service} {site : Site} {identity : String} {code : Code}

/-- What the delivery of a code asks, comes to and leaves, whatever becomes of its message. -/
theorem run_deliver (s : Service) (identity : String) (code : Code) (fate : Attempt Delivery)
    (site : Site) :
    (s.deliver identity code).trace (Site.answer fate) site
        = [⟨.send (s.config.template.render identity code), fate⟩]
      ∧ ((s.deliver identity code).run (Site.answer fate) site).result.outcome ≠ .storeError
      ∧ ((s.deliver identity code).run (Site.answer fate) site).state.vault = site.vault := by
  rcases fate with (id | reason) | reason <;> exact ⟨rfl, nofun, Site.post_vault _ _ _⟩

/-- What an issuance asks, comes to and leaves if its code is stored. -/
theorem run_issue_of_stored (hstore : s.hasStore = true) (fate : Attempt Delivery)
    {written : Flow.Run Site Bool} (hwritten : written
      = site.call (.set (s.config.keyFor identity) code.text s.config.codeLifetime))
    (hset : written.result = true) :
    let run := (s.issue identity code).run (Site.answer fate) site
    (s.issue identity code).trace (Site.answer fate) site
        = [⟨.set (s.config.keyFor identity) code.text s.config.codeLifetime, .done true⟩,
            ⟨.send (s.config.template.render identity code), fate⟩]
      ∧ run.result.outcome ≠ .storeError ∧ run.state.vault = written.state.vault := by
  intro run
  have hanswer : Site.answer fate
      (.set (s.config.keyFor identity) code.text s.config.codeLifetime) site
        = ⟨.done true, written.events, written.state⟩ := by
    rw [Site.answer, ← hset, hwritten]
  obtain ⟨htrace, houtcome, hvault⟩ := run_deliver s identity code fate written.state
  have hrun : run = (s.issue identity code).run (Site.answer fate) site := rfl
  rw [issue, if_pos hstore, Flow.run, Flow.run, hanswer] at hrun
  rw [issue, if_pos hstore, Flow.trace, Flow.trace, hanswer, hrun]
  exact ⟨congrArg _ htrace, houtcome, hvault⟩

/-- Settings without a complaint keep to the maximum. -/
theorem le_maxLifetime_of_complaint? {settings : Settings.Verification}
    (h : settings.complaint? = none) :
    settings.codeLifetime.toInt ≤ Settings.maxLifetime.toInt := by
  by_contra hlong
  have hgt : settings.codeLifetime > Settings.maxLifetime := Int64.lt_iff_toInt_lt.2 (by omega)
  rw [Settings.Verification.complaint?, if_pos hgt] at h
  cases h

/-- **An accepted lifetime is kept and announced.** Under settings without a complaint, and while
the vault works and the clock is below the limit, a code can always be stored, whatever becomes of
its message. Its record has the deadline that the lifetime means, none for one of zero or less.
The message that is handed to the channel announces that the code does not expire if there is no
deadline, the whole minutes of the lifetime, rounded up, if there is one, and nothing else. -/
theorem lifetime_is_kept_and_announced (settings : Settings.Verification)
    (hvalid : settings.complaint? = none) (sender provider identity : String) (code : Code)
    (fate : Attempt Delivery) (site : Site) (hworks : site.vault.outage = false)
    (hclock : site.clock < clockLimit) :
    let s : Service := ⟨true, provider, .ofSettings settings sender⟩
    let lifetime := settings.codeLifetime.toInt
    let key := s.config.keyFor identity
    let run := (s.issue identity code).run (Site.answer fate) site
    run.result.outcome ≠ .storeError
      ∧ ∃ deadline message,
        (s.issue identity code).trace (Site.answer fate) site
            = [⟨.set key code.text lifetime, .done true⟩, ⟨.send message, fate⟩]
          ∧ run.state.vault.find? key = some ⟨code.text, deadline⟩
          ∧ deadline
            = (if 0 < lifetime then some (site.clock + lifetime.toNat * millisPerSecond) else none)
          ∧ (deadline = none → ∀ a, message.Announces a ↔ a = .never)
          ∧ (deadline ≠ none → ∃ n, 60 * (n - 1) < lifetime ∧ lifetime ≤ 60 * n
              ∧ ∀ a, message.Announces a ↔ a = .minutes n) := by
  intro s lifetime key run
  have hle : lifetime ≤ Settings.maxLifetime.toInt := le_maxLifetime_of_complaint? hvalid
  have hnamed : Vault.deadline? site.clock lifetime ≠ none := Vault.deadline?_ne_none hclock hle
  rcases Vault.set_cases site.vault site.clock key code.text lifetime with
    ⟨deadline, -, hdeadline, hresult, hstate⟩ | ⟨hwhy, -⟩
  · obtain ⟨htrace, houtcome, hvault⟩ := run_issue_of_stored (s := s) rfl fate rfl hresult
    refine ⟨houtcome, deadline, s.config.template.render identity code, htrace, ?_, ?_, ?_, ?_⟩
    · have hkept : run.state.vault = site.vault.insert key ⟨code.text, deadline⟩ :=
        hvault.trans hstate
      rw [hkept, Vault.find?_insert]
    · split
      · next hpos => exact Vault.eq_of_deadline? hpos hdeadline
      · next hpos => exact Vault.eq_none_of_deadline? (by omega) hdeadline
    · intro hnone a
      have hnonpos : lifetime ≤ 0 := by
        by_contra hpos
        rw [Vault.eq_of_deadline? (by omega) hdeadline] at hnone
        cases hnone
      rw [Template.render_announces, Template.announcement_of_nonpos hnonpos]
    · intro hsome
      have hpos : 0 < lifetime := by
        by_contra hnonpos
        exact hsome (Vault.eq_none_of_deadline? (by omega) hdeadline)
      obtain ⟨n, hn, hlow, hhigh⟩ := Template.announcement_of_pos (t := s.config.template) hpos hle
      exact ⟨n, hlow, hhigh, fun a => by rw [Template.render_announces, hn]⟩
  · rcases hwhy with houtage | hnone
    · exact absurd (hworks.symm.trans houtage) nofun
    · exact absurd hnone hnamed

/-- A lifetime of a minute and a second: the record expires then, and two minutes are announced. -/
theorem lifetime_is_kept_and_announced_of_61 :
    let settings : Settings.Verification := { codeLifetime := 61 }
    let site : Site := { clock := 5 }
    let s : Service := ⟨true, "Mock", .ofSettings settings "Team"⟩
    let key := s.config.keyFor "a"
    let code := Code.ofDraw 0
    let fate : Attempt Delivery := .done (.sent "1")
    settings.complaint? = none ∧ site.vault.outage = false ∧ site.clock < clockLimit
      ∧ ∃ message,
        (s.issue "a" code).trace (Site.answer fate) site
            = [⟨.set key code.text 61, .done true⟩, ⟨.send message, fate⟩]
          ∧ ((s.issue "a" code).run (Site.answer fate) site).state.vault.find? key
            = some ⟨code.text, some 61005⟩
          ∧ ∀ a, message.Announces a ↔ a = .minutes 2 := by
  intro settings site s key code fate
  have hvalid : settings.complaint? = none := by decide
  have hclock : site.clock < clockLimit := by decide
  obtain ⟨-, deadline, message, htrace, hfound, hdeadline, -, hminutes⟩ :=
    lifetime_is_kept_and_announced settings hvalid "Team" "Mock" "a" code fate site rfl hclock
  have hlifetime : settings.codeLifetime.toInt = 61 := by decide
  rw [hlifetime] at htrace hdeadline hminutes
  have hsome : deadline = some 61005 := hdeadline.trans (by decide)
  obtain ⟨n, hlow, hhigh, hannounces⟩ := hminutes (by simp [hsome])
  obtain rfl : n = 2 := by omega
  refine ⟨hvalid, rfl, hclock, message, htrace, ?_, hannounces⟩
  rw [hfound, hsome]

end Service

end Passcode
