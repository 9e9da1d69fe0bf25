import Passcode.Proofs.Mail.Envelope
import Passcode.Service.Basic
import Passcode.Settings.Email

/-!
# The sender that is set

The name and the address of a sender are put together without quotes, whatever is in them. What this
says, read as a mailbox, is the name and the address that were set if the name is plain, words and
points with single blanks between them, and if there is nothing but blanks around the address, all
of them before it. Otherwise the sender is no mailbox, or is one with another name or address.

A name that is not plain cannot come out as it is by being read in quotes: quotes are not part of
what a name says, so what is read would go past the bracket before the address, up to a bracket in
it, and no address is written after a bracket within an address.

## Main definitions

* `IsSnug` — the only white space around a text are blanks before it
* `IsPresentable` — there is something in a name, and no white space at its ends

## Main statements

* `ofText_sender`, `of_ofText_sender` — when a sender says what was set
* `Settings.Email.sender_says_what_is_set_iff` — and that there are letters from it then
-/

namespace Passcode

open Mail Text

namespace Mail

/-! ## Snug addresses -/

/-- The only white space around a text are blanks before it. -/
def IsSnug (s : List Char) : Prop := dropBlanks s = trimEnd (trimStart s)

theorem isBlank_of_isSpaceOrTab {c : Char} (h : isSpaceOrTab c = true) : isBlank c = true := by
  rw [isSpaceOrTab, Bool.or_eq_true, decide_eq_true_eq, decide_eq_true_eq] at h
  rcases h with rfl | rfl <;> decide

/-- If a text and what trimming leaves of it are written for one address, the text starts with
nothing but blanks before that. -/
theorem isBlank_head_dropBlanks {s user domain : List Char} (h : IsAddressText s user domain)
    (htrim : IsAddressText (trimEnd (trimStart s)) user domain) :
    ∀ c ∈ (dropBlanks s).head?, isBlank c = false := by
  by_cases hquote : '"' ∈ s
  · obtain ⟨b, q, t, rfl, hb, -⟩ := h.exists_quoted hquote (by decide) (by decide) (by decide)
    rw [dropBlanks_append hb (forall_head?_cons (by decide) _)]
    exact forall_head?_cons (by decide) _
  · have hquote' : '"' ∉ trimEnd (trimStart s) := by
      obtain ⟨w, w', -, -, hs⟩ := exists_trimmed s
      rw [hs] at hquote
      exact fun hmem => hquote (List.mem_append_left _ (List.mem_append_right _ hmem))
    have htrimmed := isTrimmed_trimmed s
    obtain ⟨b', t', hs', hb', -, -⟩ := htrim.of_not_mem hquote'
    obtain ⟨b, t, rfl, hb, hne, hdotted⟩ := h.of_not_mem hquote
    obtain ⟨c, user, rfl⟩ := List.exists_cons_of_ne_nil hne
    have hc := isSpaceOrTab_eq_false_of_dotted (hdotted c List.mem_cons_self)
    rw [dropBlanks_append (t := c :: user ++ t) hb (forall_head?_cons hc _)]
    rw [hs'] at htrimmed
    cases b' with
    | nil => exact htrimmed.head
    | cons d b' =>
      have hblank := isBlank_of_isSpaceOrTab (hb' d List.mem_cons_self)
      rw [htrimmed.head d rfl] at hblank
      cases hblank

/-- If a text and what trimming leaves of it are written for one address, there are only blanks
before it. -/
theorem isSnug_of_isAddressText {s user domain : List Char} (h : IsAddressText s user domain)
    (htrim : IsAddressText (trimEnd (trimStart s)) user domain) : IsSnug s := by
  have hhead := isBlank_head_dropBlanks h htrim
  have hlast : ∀ c ∈ s.getLast?, isBlank c = false := by
    rw [h.getLast?_eq, ← htrim.getLast?_eq]
    exact (isTrimmed_trimmed s).last
  have hat := h.at_mem
  obtain ⟨b, t, rfl, hdrop, hb, -⟩ := exists_blanks s
  have hne : t ≠ [] := by
    rintro rfl
    rw [List.append_nil] at hat
    exact not_mem_of_forall hb (by decide) hat
  rw [hdrop] at hhead
  rw [List.getLast?_append_of_ne_nil _ hne] at hlast
  have hall := trimmed_append ⟨hhead, hlast⟩ hne (fun c hc => isBlank_of_isSpaceOrTab (hb c hc))
    (List.forall_mem_nil _)
  rw [List.append_nil] at hall
  rw [IsSnug, hdrop, hall]

/-! ## The sender -/

/-- There is something in a name, and no white space at its ends. -/
structure IsPresentable (name : String) : Prop where
  ne_nil : name.toList ≠ []
  trimmed : IsTrimmed name.toList

/-- A name that is read before an address as what it is is plain. In another name the first quote
would be one of the name that is read, which then goes into the address. -/
theorem isPlainName_of_name {n e r user domain user' domain' : List Char}
    (h : name (n ++ ' ' :: '<' :: (e ++ ['>'])) = some (n, '<' :: r))
    (hr : addressParts r = some ((user, domain), ['>']))
    (he : IsAddressText (trimEnd (trimStart e)) user' domain') : isPlainName n = true := by
  obtain ⟨k, hs, hk⟩ := name_eq_some h
  by_cases hquote : '"' ∈ k
  · obtain ⟨r', rfl, hread⟩ := isAddressText_of_addressParts hr
    have hopen : n ++ ' ' :: '<' :: (e ++ ['>']) = n ++ [' ', '<'] ++ (e ++ ['>']) := by simp
    rw [hopen] at hs
    obtain ⟨x, rfl⟩ : n ++ [' ', '<'] <+: k := by
      refine List.prefix_of_prefix_length_le (List.prefix_append _ _) ⟨_, hs.symm⟩ ?_
      rw [List.length_append]
      exact hk.of_mem hquote
    rw [List.append_assoc _ x, List.append_right_inj, ← List.cons_append, ← List.append_assoc,
      List.append_left_inj] at hs
    obtain ⟨w, w', hw, hw', htrim⟩ := exists_trimmed e
    exact absurd hread (he.not_after_bracket hw hw' (htrim.symm.trans hs))
  · exact hk.of_not_mem hquote

section Sender

variable {s : Settings.Email}

theorem toList_sender : s.sender.toList
    = s.fromName.toList ++ ' ' :: '<' :: (s.fromEmail.toList ++ ['>']) := by
  have hopen : " <".toList = [' ', '<'] := by decide
  have hclose : ">".toList = ['>'] := by decide
  simp only [Settings.Email.sender, String.toList_append, hopen, hclose, List.append_assoc,
    List.cons_append, List.nil_append]

theorem bare?_sender : bare? s.sender.toList = none := by
  rw [toList_sender, ← List.cons_append, ← List.cons_append, ← List.append_assoc, bare?_close]

theorem trim_sender (hname : IsPresentable s.fromName) :
    (trim s.sender).toList = s.sender.toList := by
  have htrimmed : IsTrimmed s.sender.toList := by
    rw [toList_sender]
    constructor
    · obtain ⟨c, n, hn⟩ := List.exists_cons_of_ne_nil hname.ne_nil
      have hhead := hname.trimmed.head
      rw [hn] at hhead ⊢
      exact hhead
    · rw [← List.cons_append, ← List.cons_append, ← List.append_assoc, List.getLast?_concat]
      intro c hc
      rw [← Option.some.inj hc]
      decide
  rw [toList_trim, htrimmed.eq (by rw [toList_sender]; simp)]

/-- What a sender with a plain name and a snug address says. -/
theorem ofText_sender {a : Address} (hname : IsPresentable s.fromName)
    (hemail : IsBareAddress s.fromEmail a) (hplain : isPlainName s.fromName.toList = true)
    (hsnug : IsSnug s.fromEmail.toList) :
    Mailbox.ofText s.sender = .ok ⟨some s.fromName, a⟩ := by
  obtain ⟨p, hbare, hparts⟩ := hemail
  have haddress : addressParts (s.fromEmail.toList ++ ['>'])
      = some ((p.user, p.domain), ['>']) := by
    rw [toList_trim, ← hsnug] at hbare
    rw [addressParts_close, ← addressParts_dropBlanks, (bare?_eq_some hbare).1]
    rfl
  have hread := bracketed?_of_name (name_append hplain _) haddress
  rw [String.ofList_toList, ← toList_sender, ← trim_sender hname] at hread
  exact ofText_eq_ok_iff.2 ⟨⟨some s.fromName, p.user, p.domain⟩, by rw [hread, Option.some_or],
    hparts, rfl⟩

/-- A sender that says what was set has a plain name and a snug address. -/
theorem of_ofText_sender {a : Address} (hname : IsPresentable s.fromName)
    (hemail : IsBareAddress s.fromEmail a)
    (h : Mailbox.ofText s.sender = .ok ⟨some s.fromName, a⟩) :
    isPlainName s.fromName.toList = true ∧ IsSnug s.fromEmail.toList := by
  obtain ⟨p', hbare, hparts'⟩ := hemail
  rw [toList_trim] at hbare
  have htrim := isAddressText_of_all (bare?_eq_some hbare).1
  obtain ⟨p, hread, hparts, hn⟩ := ofText_eq_ok_iff.1 h
  obtain ⟨huser, hdomain⟩ := ofParts_inj hparts hparts'
  rw [trim_sender hname, bare?_sender, Option.or_none] at hread
  obtain ⟨-, r, -, hrest, hfirst⟩ := bracketed?_eq_some hread
  have hfirst := hfirst _ hn
  rw [toList_sender] at hfirst
  rw [huser, hdomain] at hrest
  have hplain := isPlainName_of_name hfirst hrest htrim
  refine ⟨hplain, ?_⟩
  -- a plain name is read as itself, so what is left is the address that was set
  rw [name_append hplain] at hfirst
  obtain rfl : s.fromEmail.toList ++ ['>'] = r := by simpa using hfirst
  rw [addressParts_close] at hrest
  obtain ⟨⟨parts, rest⟩, hemail, hrest⟩ := Option.map_eq_some_iff.1 hrest
  obtain ⟨rfl, hrest⟩ := Prod.mk.inj hrest
  obtain rfl : rest = [] := by simpa using hrest
  exact isSnug_of_isAddressText (isAddressText_of_all hemail) htrim

end Sender

end Mail

/-- **A sender says what was set exactly if its name is plain and its address snug.** Then, if there
is no quote in the user of the address, there is a letter of every message of the service whose
recipient can be delivered to, and it comes from the address that was set. -/
theorem Settings.Email.sender_says_what_is_set_iff (s : Settings.Email) {a : Address}
    (hname : IsPresentable s.fromName) (hemail : IsBareAddress s.fromEmail a) :
    (Mailbox.ofText s.sender = .ok ⟨some s.fromName, a⟩
      ↔ isPlainName s.fromName.toList = true ∧ IsSnug s.fromEmail.toList) ∧
    (isPlainName s.fromName.toList = true → IsSnug s.fromEmail.toList → '"' ∉ a.user.toList →
      ∀ (v : Settings.Verification) (identity : String) (code : Code) (p : Postmark),
        ((∃ letter, Letter.ofMessage
            ((ServiceConfig.ofSettings v s.sender).template.render identity code) p = .ok letter)
          ↔ IsDeliverable identity) ∧
        ∀ letter, Letter.ofMessage
            ((ServiceConfig.ofSettings v s.sender).template.render identity code) p = .ok letter →
          letter.sender = a) := by
  refine ⟨⟨of_ofText_sender hname hemail, fun h => ofText_sender hname hemail h.1 h.2⟩,
    fun hplain hsnug hquote v identity code p => ?_⟩
  have hsender := ofText_sender hname hemail hplain hsnug
  have hfrom := envelope?_of_isBareAddress hemail hquote (some s.fromName)
  constructor
  · have hdeliverable : IsDeliverable s.sender := ⟨_, hsender, by rw [hfrom]; rfl⟩
    exact exists_ofMessage_iff.trans (and_iff_right hdeliverable)
  · intro letter hletter
    obtain ⟨b, -, hb, -, hread, -⟩ := of_ofMessage hletter
    obtain rfl := Except.ok.inj (hsender.symm.trans hb)
    exact Option.some.inj (hread.symm.trans hfrom)

/-- Two blanks are read as one, so the name is another. -/
example : Mailbox.ofText (Settings.Email.sender { fromName := "A  B", fromEmail := "a@x.com" })
    = .ok ⟨some "A B", ⟨"a", "x.com"⟩⟩ := by decide +kernel

/-- A name of words and points before an address of words: there is a letter from it. -/
theorem Settings.Email.words_are_said :
    let s : Settings.Email := { fromName := "J. R. Smith", fromEmail := "no-reply@acme.example" }
    let a : Address := ⟨"no-reply", "acme.example"⟩
    Mailbox.ofText s.sender = .ok ⟨some "J. R. Smith", a⟩ ∧
    ∃ letter, Letter.ofMessage ((ServiceConfig.ofSettings {} s.sender).template.render "ann@x.com"
      (Code.ofDraw 0)) ⟨"1", "", ""⟩ = .ok letter ∧ letter.sender = a := by
  intro s a
  have hname : IsPresentable s.fromName := ⟨by decide, by decide⟩
  have hemail : IsBareAddress s.fromEmail a :=
    ⟨⟨none, "no-reply".toList, "acme.example".toList⟩, bare?_of_addressParts (by decide +kernel),
      by decide +kernel⟩
  have hrecipient : IsBareAddress "ann@x.com" ⟨"ann", "x.com"⟩ :=
    ⟨⟨none, "ann".toList, "x.com".toList⟩, bare?_of_addressParts (by decide +kernel),
      by decide +kernel⟩
  have hplain : isPlainName s.fromName.toList = true := by decide
  have hsnug : IsSnug s.fromEmail.toList := by
    unfold IsSnug
    decide
  obtain ⟨hread, hletters⟩ := s.sender_says_what_is_set_iff hname hemail
  obtain ⟨hletter, hfrom⟩ :=
    hletters hplain hsnug (by decide) {} "ann@x.com" (Code.ofDraw 0) ⟨"1", "", ""⟩
  obtain ⟨letter, h⟩ := hletter.2 (hrecipient.isDeliverable (by decide))
  exact ⟨hread.2 ⟨hplain, hsnug⟩, letter, h, hfrom letter h⟩

/-- A comma ends the name, so that a sender with one is no mailbox. -/
theorem Settings.Email.comma_is_not_said :
    let s : Settings.Email := { fromName := "A, B", fromEmail := "no-reply@acme.example" }
    IsPresentable s.fromName ∧ IsBareAddress s.fromEmail ⟨"no-reply", "acme.example"⟩ ∧
    Mailbox.ofText s.sender = .error .grammar ∧
    Letter.ofMessage ((ServiceConfig.ofSettings {} s.sender).template.render "ann@x.com"
      (Code.ofDraw 0)) ⟨"1", "", ""⟩ = .error (.sender .grammar) := by
  refine ⟨⟨by decide, by decide⟩, ⟨⟨none, "no-reply".toList, "acme.example".toList⟩,
    bare?_of_addressParts (by decide +kernel), by decide +kernel⟩, by decide +kernel,
    by decide +kernel⟩

end Passcode
