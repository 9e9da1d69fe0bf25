import Passcode.Proofs.Mail.Address

/-!
# When a text is a mailbox

A text is a mailbox if it ends with an address between brackets or is a bare address. It is never
both, since a bracket at the end is left by an address.

## Main definitions

* `IsBareAddress` — a text is an address without a name and without brackets

## Main statements

* `ofText_eq_ok_iff` — when a text is a mailbox
* `IsBareAddress.ofText` — a bare address is a mailbox without a name
-/

namespace Passcode.Mail

open Text

theorem toList_trim (text : String) : (trim text).toList = trimEnd (trimStart text.toList) :=
  String.toList_ofList

/-- When a text is a mailbox. -/
theorem ofText_eq_ok_iff {text : String} {m : Mailbox} : Mailbox.ofText text = .ok m
    ↔ ∃ p, (bracketed? (trim text).toList).or (bare? (trim text).toList) = some p ∧
      Address.ofParts p.user p.domain = .ok m.address ∧ p.name? = m.name? := by
  unfold Mailbox.ofText
  dsimp only
  cases (bracketed? (trim text).toList).or (bare? (trim text).toList) with
  | none => simp
  | some p =>
    cases hparts : Address.ofParts p.user p.domain with
    | error fault => simp [hparts, Except.map]
    | ok a =>
      obtain ⟨name?, address⟩ := m
      simp [hparts, Except.map, and_comm]

theorem bare?_eq_some {s : List Char} {p : MailboxParts} (h : bare? s = some p) :
    addressParts s = some ((p.user, p.domain), []) ∧ p.name? = none := by
  obtain ⟨⟨⟨user, domain⟩, rest⟩, hparts, h⟩ := Option.bind_eq_some_iff.1 h
  dsimp only at h
  split at h
  · next hrest =>
    rw [hparts, ← Option.some.inj h, hrest]
    exact ⟨rfl, rfl⟩
  · cases h

theorem bare?_of_addressParts {s user domain : List Char}
    (h : addressParts s = some ((user, domain), [])) : bare? s = some ⟨none, user, domain⟩ := by
  rw [bare?, h]
  rfl

/-- What ends with a bracket is not an address without brackets. -/
theorem bare?_close (s : List Char) : bare? (s ++ ['>']) = none := by
  rw [bare?, addressParts_close]
  cases addressParts s with
  | none => rfl
  | some r => exact if_neg (List.append_ne_nil_of_right_ne_nil _ (List.cons_ne_nil _ _))

theorem of_inBrackets {t : List Char} {name? : Option String} {p : MailboxParts}
    (h : (do
      let (_, s) ← just '<' t
      let ((user, domain), s) ← addressParts s
      if s = ['>'] then some ⟨name?, user, domain⟩ else none) = some p) :
    ∃ r, t = '<' :: r ∧ addressParts r = some ((p.user, p.domain), ['>']) ∧ p.name? = name? := by
  obtain ⟨⟨_, r⟩, hopen, h⟩ := Option.bind_eq_some_iff.1 h
  obtain ⟨⟨⟨user, domain⟩, rest⟩, hparts, h⟩ := Option.bind_eq_some_iff.1 h
  dsimp only at h hparts
  split at h
  · next hrest =>
    obtain rfl := Option.some.inj h
    exact ⟨r, just_eq_some hopen, by rw [hparts, hrest], rfl⟩
  · cases h

/-- What a mailbox in brackets is made of. -/
theorem bracketed?_eq_some {s : List Char} {p : MailboxParts} (h : bracketed? s = some p) :
    ∃ k r, s = k ++ '<' :: r ∧ addressParts r = some ((p.user, p.domain), ['>']) ∧
      ∀ n, p.name? = some n → name s = some (n.toList, '<' :: r) := by
  rw [bracketed?] at h
  cases hname : name s with
  | none =>
    rw [hname] at h
    obtain ⟨r, rfl, hparts, hn⟩ := of_inBrackets h
    refine ⟨[], r, rfl, hparts, fun n hn' => ?_⟩
    rw [hn] at hn'
    cases hn'
  | some named =>
    obtain ⟨n', t⟩ := named
    rw [hname] at h
    obtain ⟨r, rfl, hparts, hn⟩ := of_inBrackets h
    obtain ⟨k, hs, -⟩ := name_eq_some hname
    refine ⟨k, r, hs, hparts, fun n hn' => ?_⟩
    rw [← Option.some.inj (hn.symm.trans hn'), String.toList_ofList]

theorem bracketed?_of_name {s n r user domain : List Char} (hname : name s = some (n, '<' :: r))
    (hparts : addressParts r = some ((user, domain), ['>'])) :
    bracketed? s = some ⟨some (String.ofList n), user, domain⟩ := by
  rw [bracketed?, hname]
  simp only [just, if_pos, Option.bind_eq_bind, Option.bind_some, hparts]

/-- A mailbox in brackets is not a bare address. -/
theorem bare?_of_bracketed? {s : List Char} {p : MailboxParts} (h : bracketed? s = some p) :
    bare? s = none := by
  obtain ⟨k, r, rfl, hparts, -⟩ := bracketed?_eq_some h
  obtain ⟨r, rfl, -⟩ := isAddressText_of_addressParts hparts
  rw [← List.cons_append, ← List.append_assoc, bare?_close]

/-- What the parts of an address have to be. -/
theorem of_ofParts {user domain : List Char} {a : Address}
    (h : Address.ofParts user domain = .ok a) :
    isUser user = true ∧ isDomain domain = true ∧
      a = ⟨String.ofList user, String.ofList domain⟩ := by
  unfold Address.ofParts at h
  split at h
  · cases h
  · next huser =>
    split at h
    · cases h
    · next hdomain =>
      exact ⟨by simpa using huser, by simpa using hdomain, (Except.ok.inj h).symm⟩

theorem ofParts_inj {user domain user' domain' : List Char} {a : Address}
    (h : Address.ofParts user domain = .ok a) (h' : Address.ofParts user' domain' = .ok a) :
    user = user' ∧ domain = domain' := by
  obtain ⟨huser, hdomain⟩ := Address.mk.inj ((of_ofParts h).2.2.symm.trans (of_ofParts h').2.2)
  exact ⟨String.ofList_injective huser, String.ofList_injective hdomain⟩

/-- A text is an address without a name and without brackets. -/
def IsBareAddress (text : String) (a : Address) : Prop :=
  ∃ p, bare? (trim text).toList = some p ∧ Address.ofParts p.user p.domain = .ok a

/-- A bare address is a mailbox without a name. -/
theorem IsBareAddress.ofText {text : String} {a : Address} (h : IsBareAddress text a) :
    Mailbox.ofText text = .ok ⟨none, a⟩ := by
  obtain ⟨p, hbare, hparts⟩ := h
  have hnone : bracketed? (trim text).toList = none := by
    cases hbracketed : bracketed? (trim text).toList with
    | none => rfl
    | some p' =>
      rw [bare?_of_bracketed? hbracketed] at hbare
      cases hbare
  exact ofText_eq_ok_iff.2
    ⟨p, by rw [hnone, hbare, Option.none_or], hparts, (bare?_eq_some hbare).2⟩

end Passcode.Mail
