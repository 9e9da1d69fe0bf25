import Passcode.Mail.Letter
import Passcode.Proofs.Mail.Mailbox
import Passcode.Proofs.Text.Classes

/-!
# Letters that can be addressed

The ends of a letter are read from the texts of its addresses, without the quotes that a user may
have been written with. An address without a quote in its user is read as itself, so a mailbox with
it can always be an end of a letter.

## Main statements

* `envelope?_of_isBareAddress` — addresses that are read as themselves
* `exists_ofMessage_iff` — when there is a letter of a message
-/

namespace Passcode.Mail

open Text

/-! ## Words that can be delivered to -/

theorem le_of_isPairOfBytes {c : Char} (h : isPairOfBytes c = true) : 0xc200 ≤ c.toNat := by
  simp only [isPairOfBytes, Bool.and_eq_true, decide_eq_true_eq] at h
  omega

theorem isAtomChar_of_isWordChar {c : Char} (h : isWordChar c = true) : isAtomChar c = true := by
  rw [isWordChar, Bool.or_eq_true, Bool.or_eq_true] at h
  rw [isAtomChar, Bool.or_eq_true, Bool.or_eq_true, decide_eq_true_eq]
  rcases h with (h | h) | h
  · by_cases hascii : c.toNat < 0x80
    · exact .inl (.inl (isAlphanum_of_isAlphanumeric h hascii))
    · exact .inr (Nat.not_lt.1 hascii)
  · exact .inl (.inr h)
  · exact .inr (Nat.le_trans (by decide) (le_of_isPairOfBytes h))

theorem isBlank_eq_false_of_isWordChar {c : Char} (h : isWordChar c = true) :
    isBlank c = false := by
  rw [isWordChar, Bool.or_eq_true, Bool.or_eq_true] at h
  rcases h with (h | h) | h
  · exact isBlank_eq_false_of_isAlphanumeric h
  · have hsigns : ['!', '#', '$', '%', '&', '\'', '*', '+', '-', '/', '=', '?', '^', '_', '\x60',
      '\x7b', '|', '\x7d', '~'].all (!isBlank ·) = true := by decide
    simpa using List.all_eq_true.1 hsigns c (List.contains_iff_mem.1 h)
  · have hlow : ∀ r ∈ blankRanges, r.2 < 0xc200 := by decide
    exact CharRanges.holds_eq_false fun r hr =>
      .inr (Nat.lt_of_lt_of_le (hlow r hr) (le_of_isPairOfBytes h))

theorem of_isWord {s : List Char} (h : isWord s = true) :
    s ≠ [] ∧ ∀ c ∈ s, isWordChar c = true := by
  rw [isWord, Bool.and_eq_true, decide_eq_true_eq, List.all_eq_true] at h
  exact h

/-- A user without quotes is words between points. -/
theorem words_of_isUser {s : List Char} (h : isUser s = true) (hquote : '"' ∉ s) :
    ∀ piece ∈ splitOn '.' s, isWord piece = true := by
  have hbetween : between? '"' '"' s = none := by
    unfold between?
    refine if_neg ?_
    rw [Bool.and_eq_true, Bool.and_eq_true, decide_eq_true_eq, decide_eq_true_eq]
    rintro ⟨⟨-, hhead⟩, -⟩
    exact hquote (List.mem_of_head? hhead)
  rw [isUser, hbetween, Bool.and_eq_true, List.all_eq_true] at h
  exact h.2

theorem dottedRest_of_dottedAtoms {s a t : List Char} (h : dottedAtoms s = some (a, t)) :
    dottedRest ('.' :: s) = ('.' :: a, t) := by
  rw [dottedAtoms_eq] at h
  obtain ⟨⟨w, u⟩, hatom, h⟩ := Option.map_eq_some_iff.1 h
  obtain ⟨rfl, rfl⟩ := Prod.mk.inj h
  rw [dottedRest_point_some hatom, List.cons_append]

/-- Words between points are read as such before an `@`. -/
theorem dottedAtoms_words {s : List Char} (h : ∀ piece ∈ splitOn '.' s, isWord piece = true)
    (t : List Char) : dottedAtoms (s ++ '@' :: t) = some (s, '@' :: t) := by
  induction hlength : s.length using Nat.strongRecOn generalizing s with
  | ind n ih =>
    by_cases hpoint : '.' ∈ s
    · obtain ⟨w, r, rfl, hw⟩ := List.eq_append_cons_of_mem hpoint
      rw [splitOn_append hw] at h
      obtain ⟨hword, hrest⟩ := List.forall_mem_cons.1 h
      obtain ⟨hne, hchars⟩ := of_isWord hword
      have hmore := ih r.length
        (by rw [← hlength, List.length_append, List.length_cons]; omega) hrest rfl
      have hatom := atom_append (t := '.' :: (r ++ '@' :: t)) hne
        (fun c hc => isAtomChar_of_isWordChar (hchars c hc)) (forall_head?_cons (by decide) _)
      rw [List.append_assoc, List.cons_append, dottedAtoms_eq, hatom, Option.map_some]
      dsimp only
      rw [dottedRest_of_dottedAtoms hmore]
    · rw [splitOn_of_not_mem hpoint] at h
      obtain ⟨hne, hchars⟩ := of_isWord (h s List.mem_cons_self)
      have hatom := atom_append (t := '@' :: t) hne
        (fun c hc => isAtomChar_of_isWordChar (hchars c hc)) (forall_head?_cons (by decide) _)
      rw [dottedAtoms_eq, hatom, Option.map_some]
      dsimp only
      rw [dottedRest_of_ne (by decide), List.append_nil]

/-- Words between points start with a character of a word. -/
theorem head_of_words {s : List Char} (h : ∀ piece ∈ splitOn '.' s, isWord piece = true) :
    ∃ c t, s = c :: t ∧ isWordChar c = true := by
  obtain ⟨w, t, rfl, hw⟩ : ∃ w t, s = w ++ t ∧ isWord w = true := by
    by_cases hpoint : '.' ∈ s
    · obtain ⟨w, r, rfl, hw⟩ := List.eq_append_cons_of_mem hpoint
      rw [splitOn_append hw] at h
      exact ⟨w, _, rfl, h w List.mem_cons_self⟩
    · rw [splitOn_of_not_mem hpoint] at h
      exact ⟨s, [], (List.append_nil s).symm, h s List.mem_cons_self⟩
  obtain ⟨hne, hchars⟩ := of_isWord hw
  obtain ⟨c, w, rfl⟩ := List.exists_cons_of_ne_nil hne
  exact ⟨c, _, rfl, hchars c List.mem_cons_self⟩

/-! ## Addresses that are read again -/

theorem dottedAtoms_domain {s user domain : List Char}
    (h : addressParts s = some ((user, domain), [])) : dottedAtoms domain = some (domain, []) := by
  obtain ⟨⟨u, s₁⟩, huser, h⟩ := Option.bind_eq_some_iff.1 h
  obtain ⟨⟨a, s₂⟩, hat, h⟩ := Option.bind_eq_some_iff.1 h
  obtain ⟨⟨d, s₃⟩, hdomain, h⟩ := Option.bind_eq_some_iff.1 h
  obtain ⟨rfl, rfl, rfl⟩ : u = user ∧ d = domain ∧ s₃ = [] := by
    simpa [and_assoc] using h
  have hread := (dottedAtoms_eq_some hdomain).1
  rw [List.append_nil] at hread
  rwa [domainPart, hread] at hdomain

theorem toList_addressText (a : Address) :
    a.text.toList = a.user.toList ++ '@' :: a.domain.toList := by
  have hat : "@".toList = ['@'] := by decide
  simp only [Address.text, String.toList_append, hat, List.append_assoc, List.singleton_append]

/-- Words, an `@` and a domain are an address. -/
theorem addressParts_words {user domain : List Char}
    (hwords : ∀ piece ∈ splitOn '.' user, isWord piece = true)
    (hdomain : dottedAtoms domain = some (domain, [])) :
    addressParts (user ++ '@' :: domain) = some ((user, domain), []) := by
  obtain ⟨c, t, hc, hword⟩ := head_of_words hwords
  have hstart : dropBlanks (user ++ '@' :: domain) = user ++ '@' :: domain := by
    rw [hc]
    exact dropBlanks_of_dotted (isDottedChar_of_isAtomChar (isAtomChar_of_isWordChar hword)) _
  have hblank : dropBlanks domain = domain := by
    obtain ⟨-, hne, hdotted⟩ := dottedAtoms_eq_some hdomain
    obtain ⟨d, u, rfl⟩ := List.exists_cons_of_ne_nil hne
    exact dropBlanks_of_dotted (hdotted d List.mem_cons_self) u
  rw [addressParts, userPart, hstart, dottedAtoms_words hwords]
  simp only [Option.some_or, Option.bind_eq_bind, Option.bind_some, just, if_pos, domainPart,
    hblank, hdomain]
  rfl

/-- Nothing of an address between words and a domain is trimmed off, and it has no bracket. -/
theorem ofText_of_words {text : String} {user domain : List Char} {a : Address}
    (htext : text.toList = user ++ '@' :: domain)
    (hwords : ∀ piece ∈ splitOn '.' user, isWord piece = true)
    (hdomain : dottedAtoms domain = some (domain, []))
    (hlast : ∀ c ∈ domain.getLast?, isBlank c = false)
    (hparts : Address.ofParts user domain = .ok a) : Mailbox.ofText text = .ok ⟨none, a⟩ := by
  have haddress := addressParts_words hwords hdomain
  obtain ⟨-, hne, hchars⟩ := dottedAtoms_eq_some hdomain
  have htrimmed : IsTrimmed (user ++ '@' :: domain) := by
    constructor
    · obtain ⟨c, t, rfl, hword⟩ := head_of_words hwords
      exact forall_head?_cons (isBlank_eq_false_of_isWordChar hword) _
    · rwa [(isAddressText_of_all haddress).getLast?_eq]
  have hless : '<' ∉ user ++ '@' :: domain := by
    have huser := (dottedAtoms_eq_some (dottedAtoms_words hwords [])).2.2
    rw [List.mem_append, List.mem_cons]
    rintro (h | h | h)
    · exact not_mem_of_forall huser (by decide) h
    · exact absurd h (by decide)
    · exact not_mem_of_forall hchars (by decide) h
  have hbracketed : bracketed? (user ++ '@' :: domain) = none := by
    cases h : bracketed? (user ++ '@' :: domain) with
    | none => rfl
    | some p =>
      obtain ⟨k, r, hs, -⟩ := bracketed?_eq_some h
      rw [hs] at hless
      exact absurd (List.mem_append_right k List.mem_cons_self) hless
  refine ofText_eq_ok_iff.2 ⟨⟨none, user, domain⟩, ?_, hparts, rfl⟩
  rw [toList_trim, htext, htrimmed.eq (List.append_ne_nil_of_right_ne_nil _ (List.cons_ne_nil _ _)),
    hbracketed, bare?_of_addressParts haddress, Option.none_or]

/-- **A bare address without a quote in its user is read again as itself.** -/
theorem envelope?_of_isBareAddress {text : String} {a : Address} (h : IsBareAddress text a)
    (hquote : '"' ∉ a.user.toList) (name? : Option String) :
    (Mailbox.mk name? a).envelope? = some a := by
  obtain ⟨p, hbare, hparts⟩ := h
  rw [toList_trim] at hbare
  have haddress := (bare?_eq_some hbare).1
  obtain ⟨huser, -, ha⟩ := of_ofParts hparts
  have hlast : ∀ c ∈ p.domain.getLast?, isBlank c = false := by
    rw [← (isAddressText_of_all haddress).getLast?_eq]
    exact (isTrimmed_trimmed _).last
  have htext : a.text.toList = p.user ++ '@' :: p.domain := by
    rw [toList_addressText, ha, String.toList_ofList, String.toList_ofList]
  rw [ha, String.toList_ofList] at hquote
  rw [Mailbox.envelope?, ofText_of_words htext (words_of_isUser huser hquote)
    (dottedAtoms_domain haddress) hlast hparts]
  rfl

/-! ## Letters -/

/-- A text is a mailbox that can be an end of a letter. -/
def IsDeliverable (text : String) : Prop :=
  ∃ m, Mailbox.ofText text = .ok m ∧ m.envelope?.isSome = true

/-- A bare address without a quote in its user can be delivered to. -/
theorem IsBareAddress.isDeliverable {text : String} {a : Address} (h : IsBareAddress text a)
    (hquote : '"' ∉ a.user.toList) : IsDeliverable text :=
  ⟨_, h.ofText, by rw [envelope?_of_isBareAddress h hquote]; rfl⟩

/-- The ends of a letter are those of its message, read again. -/
theorem of_ofMessage {m : Message} {p : Postmark} {letter : Letter}
    (h : Letter.ofMessage m p = .ok letter) : ∃ sender recipient,
      Mailbox.ofText m.sender = .ok sender ∧ Mailbox.ofText m.recipient = .ok recipient ∧
      sender.envelope? = some letter.sender ∧ recipient.envelope? = some letter.recipient := by
  unfold Letter.ofMessage at h
  cases hsender : Mailbox.ofText m.sender with
  | error fault =>
    rw [hsender] at h
    cases h
  | ok sender =>
    cases hrecipient : Mailbox.ofText m.recipient with
    | error fault =>
      rw [hsender, hrecipient] at h
      cases h
    | ok recipient =>
      rw [hsender, hrecipient] at h
      cases hfrom : sender.envelope? with
      | none =>
        simp only [Except.mapError, bind, Except.bind, hfrom, orFault] at h
        cases h
      | some a =>
        cases hto : recipient.envelope? with
        | none =>
          simp only [Except.mapError, bind, Except.bind, hfrom, hto, orFault] at h
          cases h
        | some b =>
          simp only [Except.mapError, bind, Except.bind, hfrom, hto, orFault] at h
          obtain rfl := Except.ok.inj h
          exact ⟨sender, recipient, rfl, rfl, hfrom, hto⟩

/-- **There is a letter of a message exactly if both its ends can be delivered to.** -/
theorem exists_ofMessage_iff {m : Message} {p : Postmark} :
    (∃ letter, Letter.ofMessage m p = .ok letter)
      ↔ IsDeliverable m.sender ∧ IsDeliverable m.recipient := by
  constructor
  · rintro ⟨letter, h⟩
    obtain ⟨sender, recipient, hsender, hrecipient, hfrom, hto⟩ := of_ofMessage h
    exact ⟨⟨sender, hsender, by rw [hfrom]; rfl⟩, ⟨recipient, hrecipient, by rw [hto]; rfl⟩⟩
  · rintro ⟨⟨sender, hsender, hfrom⟩, recipient, hrecipient, hto⟩
    obtain ⟨a, ha⟩ := Option.isSome_iff_exists.1 hfrom
    obtain ⟨b, hb⟩ := Option.isSome_iff_exists.1 hto
    unfold Letter.ofMessage
    simp only [hsender, hrecipient, Except.mapError, bind, Except.bind, ha, hb, orFault]
    exact ⟨_, rfl⟩

end Passcode.Mail
