import Passcode.Proofs.Mail.Grammar

/-!
# How an address is written

An address is a user, an `@` and a domain, with blanks before either part. The domain is a row of
words and points, and the user is one or is between quotes, so that nothing but a quoted user has
a character in it that can stand neither in a word nor between words. Therefore what is written
after such a character in an address is not an address: it would have to start with a quote that
has no backslash before it.

## Main definitions

* `IsAddressText` — how an address is written

## Main statements

* `isAddressText_of_addressParts` — what `addressParts` reads
* `addressParts_close` — a bracket after an address is left
* `IsAddressText.not_after_bracket` — no address is written after a bracket within an address
-/

namespace Passcode.Mail

open Passcode.Text (isBlank splitAtLast_append exists_between forall_head?_cons)

/-! ## Rows of words -/

theorem dottedAtoms_eq (s : List Char) : dottedAtoms s
    = (atom s).map fun (a, t) => (a ++ (dottedRest t).1, (dottedRest t).2) := by
  rw [dottedAtoms]
  cases atom s <;> rfl

theorem dottedRest_nil : dottedRest [] = ([], []) := by
  rw [dottedRest]
  rfl

theorem dottedRest_of_ne {c : Char} (hc : c ≠ '.') (s : List Char) :
    dottedRest (c :: s) = ([], c :: s) := by
  rw [dottedRest, just, if_neg hc]
  rfl

theorem length_of_atom {s a rest : List Char} (h : atom s = some (a, rest)) :
    rest.length < s.length := by
  obtain ⟨rfl, hne, -⟩ := atom_eq_some h
  have := List.length_pos_iff.2 hne
  rw [List.length_append]
  omega

theorem dottedRest_point_none {s : List Char} (h : atom s = none) :
    dottedRest ('.' :: s) = ([], '.' :: s) := by
  rw [dottedRest, just, if_pos rfl, Option.bind_some]
  simp only [h]

/-- After a point, the row goes on if there is another word. -/
theorem dottedRest_point_some {s a t : List Char} (h : atom s = some (a, t)) :
    dottedRest ('.' :: s) = ('.' :: a ++ (dottedRest t).1, (dottedRest t).2) := by
  have hless : t.length < ('.' :: s).length := Nat.lt_succ_of_lt (length_of_atom h)
  rw [dottedRest, just, if_pos rfl, Option.bind_some]
  simp only [h, hless, dif_pos]

theorem readsDottedRest (s : List Char) : s = (dottedRest s).1 ++ (dottedRest s).2
    ∧ ∀ c ∈ (dottedRest s).1, isDottedChar c = true := by
  induction hlength : s.length using Nat.strongRecOn generalizing s with
  | ind n ih =>
    have hnone (h : dottedRest s = ([], s)) : s = (dottedRest s).1 ++ (dottedRest s).2
        ∧ ∀ c ∈ (dottedRest s).1, isDottedChar c = true := by
      rw [h]
      exact ⟨rfl, nofun⟩
    match s, hnone with
    | [], hnone => exact hnone dottedRest_nil
    | c :: s, hnone =>
      by_cases hc : c = '.'
      · subst hc
        cases hatom : atom s with
        | none => exact hnone (dottedRest_point_none hatom)
        | some word =>
          obtain ⟨a, t⟩ := word
          obtain ⟨hread, hdotted⟩ := ih t.length
            (by rw [← hlength]; exact Nat.lt_succ_of_lt (length_of_atom hatom)) t rfl
          obtain ⟨rfl, -, ha⟩ := atom_eq_some hatom
          rw [dottedRest_point_some hatom, List.cons_append, List.cons_append, List.append_assoc,
            ← hread]
          refine ⟨rfl, List.forall_mem_cons.2 ⟨by decide, List.forall_mem_append.2 ⟨?_, hdotted⟩⟩⟩
          exact fun d hd => isDottedChar_of_isAtomChar (ha d hd)
      · exact hnone (dottedRest_of_ne hc s)

theorem dottedAtoms_eq_some {s a rest : List Char} (h : dottedAtoms s = some (a, rest)) :
    s = a ++ rest ∧ a ≠ [] ∧ ∀ c ∈ a, isDottedChar c = true := by
  rw [dottedAtoms_eq] at h
  obtain ⟨⟨w, t⟩, hatom, hrest⟩ := Option.map_eq_some_iff.1 h
  obtain ⟨rfl, rfl⟩ := Prod.mk.inj hrest
  obtain ⟨rfl, hne, hw⟩ := atom_eq_some hatom
  obtain ⟨hread, hdotted⟩ := readsDottedRest t
  refine ⟨by rw [List.append_assoc, ← hread], List.append_ne_nil_of_left_ne_nil hne _,
    List.forall_mem_append.2 ⟨fun c hc => isDottedChar_of_isAtomChar (hw c hc), hdotted⟩⟩

/-! ## Addresses -/

/-- How an address is written. -/
inductive IsAddressText : List Char → List Char → List Char → Prop where
  | mk {b k b' user domain : List Char} (before : ∀ c ∈ b, isSpaceOrTab c = true)
    (written : IsWritten isDottedChar k user) (between : ∀ c ∈ b', isSpaceOrTab c = true)
    (ne_nil : domain ≠ []) (dotted : ∀ c ∈ domain, isDottedChar c = true) :
    IsAddressText (b ++ (k ++ '@' :: (b' ++ domain))) user domain

theorem userPart_eq_some {s user rest : List Char} (h : userPart s = some (user, rest)) :
    ∃ k, dropBlanks s = k ++ rest ∧ IsWritten isDottedChar k user := by
  rcases Option.or_eq_some_iff.1 h with hdotted | ⟨-, hquoted⟩
  · obtain ⟨hs, hne, ha⟩ := dottedAtoms_eq_some hdotted
    exact ⟨user, hs, .plain hne ha⟩
  · exact quotedWord_eq_some hquoted

theorem just_eq_some {c : Char} {s a rest : List Char} (h : just c s = some (a, rest)) :
    s = c :: rest := by
  unfold just at h
  split at h
  · split at h
    · next hc => rw [hc, (Prod.mk.inj (Option.some.inj h)).2]
    · cases h
  · cases h

/-- What `addressParts` reads. -/
theorem isAddressText_of_addressParts {s user domain rest : List Char}
    (h : addressParts s = some ((user, domain), rest)) :
    ∃ k, s = k ++ rest ∧ IsAddressText k user domain := by
  obtain ⟨⟨u, s₁⟩, huser, h⟩ := Option.bind_eq_some_iff.1 h
  obtain ⟨⟨a, s₂⟩, hat, h⟩ := Option.bind_eq_some_iff.1 h
  obtain ⟨⟨d, s₃⟩, hdomain, h⟩ := Option.bind_eq_some_iff.1 h
  obtain ⟨rfl, rfl, rfl⟩ : u = user ∧ d = domain ∧ s₃ = rest := by
    simpa [and_assoc] using h
  obtain ⟨b, t, rfl, ht, hb, -⟩ := exists_blanks s
  obtain ⟨k, hk, hwritten⟩ := userPart_eq_some huser
  obtain rfl := just_eq_some hat
  obtain ⟨b', t', rfl, ht', hb', -⟩ := exists_blanks s₂
  obtain ⟨hd, hne, hdotted⟩ := dottedAtoms_eq_some hdomain
  rw [ht] at hk
  rw [ht'] at hd
  refine ⟨_, ?_, .mk hb hwritten hb' hne hdotted⟩
  rw [hk, hd]
  simp only [List.append_assoc, List.cons_append]

theorem isAddressText_of_all {s user domain : List Char}
    (h : addressParts s = some ((user, domain), [])) : IsAddressText s user domain := by
  obtain ⟨k, rfl, hread⟩ := isAddressText_of_addressParts h
  rwa [List.append_nil]

/-- Blanks before an address do not count. -/
theorem addressParts_dropBlanks (s : List Char) : addressParts (dropBlanks s) = addressParts s := by
  obtain ⟨b, t, rfl, ht, -, hhead⟩ := exists_blanks s
  have hagain : dropBlanks t = t := dropBlanks_append (b := []) nofun hhead
  rw [ht, addressParts, addressParts, userPart, userPart, ht, hagain]

/-! ### What can be in an address -/

/-- A user between quotes is needed for a character that stands nowhere else in an address. -/
theorem IsAddressText.exists_quoted {s user domain : List Char} (h : IsAddressText s user domain)
    {c : Char} (hmem : c ∈ s) (hdotted : isDottedChar c = false) (hblank : isSpaceOrTab c = false)
    (hat : c ≠ '@') : ∃ b q t, s = b ++ '"' :: (q ++ '"' :: t) ∧
      (∀ c ∈ b, isSpaceOrTab c = true) ∧ IsEscaped q ∧ '"' ∉ t ∧ '<' ∉ t := by
  obtain ⟨hb, hwritten, hb', -, hd⟩ := h
  rename_i b k b'
  have hafter (c : Char) (hdotted : isDottedChar c = false) (hblank : isSpaceOrTab c = false)
      (hat : c ≠ '@') : c ∉ '@' :: (b' ++ domain) := by
    rw [List.mem_cons, List.mem_append]
    rintro (h | h | h)
    exacts [hat h, not_mem_of_forall hb' hblank h, not_mem_of_forall hd hdotted h]
  cases hwritten with
  | plain _ ha =>
    rw [List.mem_append, List.mem_append] at hmem
    rcases hmem with hmem | hmem | hmem
    · exact absurd hmem (not_mem_of_forall hb hblank)
    · exact absurd hmem (not_mem_of_forall ha hdotted)
    · exact absurd hmem (hafter c hdotted hblank hat)
  | quoted _ hq =>
    exact ⟨b, _, _, by simp, hb, hq, hafter '"' (by decide) (by decide) (by decide),
      hafter '<' (by decide) (by decide) (by decide)⟩

theorem IsAddressText.at_mem {s user domain : List Char} (h : IsAddressText s user domain) :
    '@' ∈ s := by
  obtain ⟨-, -, -, -, -⟩ := h
  exact List.mem_append_right _ (List.mem_append_right _ List.mem_cons_self)

/-- Without a quote, the user of an address is written as it is. -/
theorem IsAddressText.of_not_mem {s user domain : List Char} (h : IsAddressText s user domain)
    (hquote : '"' ∉ s) : ∃ b t, s = b ++ (user ++ t) ∧ (∀ c ∈ b, isSpaceOrTab c = true) ∧
      user ≠ [] ∧ ∀ c ∈ user, isDottedChar c = true := by
  obtain ⟨hb, hwritten, -, -, -⟩ := h
  rw [List.mem_append, List.mem_append, not_or, not_or] at hquote
  obtain ⟨rfl, hne, hdotted⟩ := hwritten.of_not_mem hquote.2.1
  exact ⟨_, _, rfl, hb, hne, hdotted⟩

/-- An address ends with its domain. -/
theorem IsAddressText.getLast?_eq {s user domain : List Char} (h : IsAddressText s user domain) :
    s.getLast? = domain.getLast? := by
  obtain ⟨-, -, -, hne, -⟩ := h
  rw [← List.cons_append, ← List.append_assoc, ← List.append_assoc,
    List.getLast?_append_of_ne_nil _ hne]

/-- **No address is written after a bracket within an address**, with white space around it or
not. -/
theorem IsAddressText.not_after_bracket {w w' s x y user domain user' domain' : List Char}
    (hw : ∀ c ∈ w, isBlank c = true) (hw' : ∀ c ∈ w', isBlank c = true)
    (h : IsAddressText s user domain) (hsplit : w ++ s ++ w' = x ++ '<' :: y) :
    ¬IsAddressText y user' domain' := by
  intro h'
  have hless : '<' ∈ s := by
    have hmem : '<' ∈ w ++ s ++ w' := by
      rw [hsplit]
      exact List.mem_append_right x List.mem_cons_self
    rw [List.mem_append, List.mem_append] at hmem
    rcases hmem with (hmem | hmem) | hmem
    · exact absurd hmem (not_mem_of_forall hw (by decide))
    · exact hmem
    · exact absurd hmem (not_mem_of_forall hw' (by decide))
  obtain ⟨b, q, t, rfl, hb, hq, hquote, hless⟩ :=
    h.exists_quoted hless (by decide) (by decide) (by decide)
  have hquote : '"' ∉ t ++ w' := by
    rw [List.mem_append, not_or]
    exact ⟨hquote, not_mem_of_forall hw' (by decide)⟩
  -- the bracket is between the quotes, so what follows it has the closing quote in it
  obtain ⟨q₁, q₂, rfl, -, rfl⟩ : ∃ q₁ q₂, q = q₁ ++ '<' :: q₂ ∧ x = w ++ b ++ ['"'] ++ q₁
      ∧ y = q₂ ++ '"' :: (t ++ w') := by
    refine exists_between ?_ ?_ (by simpa using hsplit)
    · simp [not_mem_of_forall hw (d := '<') (by decide),
        not_mem_of_forall hb (d := '<') (by decide)]
    · simp [hless, not_mem_of_forall hw' (d := '<') (by decide)]
  have hmem : '"' ∈ q₂ ++ '"' :: (t ++ w') := List.mem_append_right q₂ List.mem_cons_self
  obtain ⟨b', q', t', hy, hb', -, hquote', -⟩ :=
    h'.exists_quoted hmem (by decide) (by decide) (by decide)
  -- and so an opening quote, with blanks only between the bracket and it
  have hq₂ : q₂ = b' ++ '"' :: q' := by
    have hcut := splitAtLast_append hquote' (b' ++ '"' :: q')
    rw [List.append_assoc, List.cons_append, ← hy, splitAtLast_append hquote] at hcut
    exact (Prod.mk.inj (Option.some.inj hcut)).1
  have hlast := hq (q₁ ++ '<' :: b') q' (by rw [hq₂, List.append_assoc, List.cons_append])
  rw [List.getLast?_append_cons] at hlast
  rcases List.mem_cons.1 (List.mem_of_getLast? hlast) with h | h
  · exact absurd h (by decide)
  · exact not_mem_of_forall hb' (by decide) h

/-! ## Before a closing bracket -/

/-- What a step gives, with a bracket after what it leaves. -/
def close {α : Type} (r : α × List Char) : α × List Char := (r.1, r.2 ++ ['>'])

theorem atom_close (s : List Char) : atom (s ++ ['>']) = (atom s).map close := by
  cases s with
  | nil => rfl
  | cons c s =>
    cases hc : isAtomChar c with
    | false => rw [List.cons_append, atom_of_not hc, atom_of_not hc, Option.map_none]
    | true =>
      obtain ⟨a, u, hs, hne, ha, hu⟩ := exists_atoms hc s
      have hclose : ∀ d ∈ (u ++ ['>']).head?, isAtomChar d = false := by
        cases u with
        | nil => exact forall_head?_cons (by decide) []
        | cons d u => exact hu
      rw [hs, atom_append hne ha hu, List.append_assoc, atom_append hne ha hclose]
      rfl

theorem dottedRest_close (s : List Char) : dottedRest (s ++ ['>']) = close (dottedRest s) := by
  induction hlength : s.length using Nat.strongRecOn generalizing s with
  | ind n ih =>
    match s with
    | [] =>
      rw [dottedRest_nil]
      exact dottedRest_of_ne (by decide) []
    | c :: s =>
      by_cases hc : c = '.'
      · have hmore := atom_close s
        subst hc
        cases hatom : atom s with
        | none =>
          rw [hatom] at hmore
          rw [dottedRest_point_none hatom, List.cons_append, dottedRest_point_none hmore]
          rfl
        | some word =>
          obtain ⟨a, t⟩ := word
          rw [hatom] at hmore
          rw [dottedRest_point_some hatom, List.cons_append, dottedRest_point_some hmore,
            ih t.length (by rw [← hlength]; exact Nat.lt_succ_of_lt (length_of_atom hatom)) t rfl]
          rfl
      · rw [List.cons_append, dottedRest_of_ne hc, dottedRest_of_ne hc]
        rfl

theorem dottedAtoms_close (s : List Char) :
    dottedAtoms (s ++ ['>']) = (dottedAtoms s).map close := by
  rw [dottedAtoms_eq, dottedAtoms_eq, atom_close]
  cases atom s with
  | none => rfl
  | some word =>
    simp only [Option.map_some, close, dottedRest_close]

theorem quotedRest_cons {c : Char} (hquote : c ≠ '"') (hescape : c ≠ '\\')
    (pending s : List Char) : quotedRest pending (c :: s)
      = if isSpaceOrTab c then quotedRest [' '] s
        else if isQuotedChar c then (quotedRest [] s).map fun (a, s) => (pending ++ c :: a, s)
        else none := by
  rw [quotedRest]
  · exact hquote
  · exact fun _ _ h _ => hescape h

theorem quotedRest_close (pending s : List Char) :
    quotedRest pending (s ++ ['>']) = (quotedRest pending s).map close := by
  fun_induction quotedRest pending s with
  | case1 => rfl
  | case2 => rfl
  | case3 pending c s hc ih =>
    rw [List.cons_append, List.cons_append, quotedRest, if_pos hc, ih, Option.map_map,
      Option.map_map]
    rfl
  | case4 pending c s hc =>
    rw [List.cons_append, List.cons_append, quotedRest, if_neg hc, Option.map_none]
  | case5 pending c s hquote _ hblank ih =>
    have hescape : c ≠ '\\' := by
      rintro rfl
      exact absurd hblank (by decide)
    rw [List.cons_append, quotedRest_cons hquote hescape, if_pos hblank, ih]
  | case6 pending c s hquote _ hblank hc ih =>
    have hescape : c ≠ '\\' := by
      rintro rfl
      exact absurd hc (by decide)
    rw [List.cons_append, quotedRest_cons hquote hescape, if_neg hblank, if_pos hc, ih,
      Option.map_map, Option.map_map]
    rfl
  | case7 pending c s hquote hlast hblank hc =>
    by_cases hescape : c = '\\'
    · -- a backslash at the end escapes the bracket, and nothing is left to close the quotes
      subst hescape
      cases s with
      | nil => rfl
      | cons d s => exact absurd rfl (hlast d s rfl)
    · rw [List.cons_append, quotedRest_cons hquote hescape, if_neg hblank, if_neg hc]
      rfl

theorem quotedWord_close (s : List Char) :
    quotedWord (s ++ ['>']) = (quotedWord s).map close := by
  cases s with
  | nil => rfl
  | cons c s =>
    by_cases hc : c = '"'
    · rw [hc]
      exact quotedRest_close [] s
    · rw [List.cons_append, quotedWord_of_ne hc, quotedWord_of_ne hc, Option.map_none]

theorem dropBlanks_close (s : List Char) : dropBlanks (s ++ ['>']) = dropBlanks s ++ ['>'] := by
  obtain ⟨b, t, rfl, ht, hb, hhead⟩ := exists_blanks s
  rw [ht, List.append_assoc]
  refine dropBlanks_append hb ?_
  cases t with
  | nil => exact forall_head?_cons (by decide) []
  | cons c t => exact hhead

theorem userPart_close (s : List Char) : userPart (s ++ ['>']) = (userPart s).map close := by
  rw [userPart, dropBlanks_close, dottedAtoms_close, quotedWord_close, ← Option.map_or, ← userPart]

theorem domainPart_close (s : List Char) : domainPart (s ++ ['>']) = (domainPart s).map close := by
  rw [domainPart, dropBlanks_close, dottedAtoms_close, ← domainPart]

theorem just_close {c : Char} (hc : c ≠ '>') (s : List Char) :
    just c (s ++ ['>']) = (just c s).map close := by
  cases s with
  | nil => exact if_neg (Ne.symm hc)
  | cons d s =>
    rw [List.cons_append, just, just]
    split <;> rfl

/-- **A bracket after an address is left.** -/
theorem addressParts_close (s : List Char) :
    addressParts (s ++ ['>']) = (addressParts s).map close := by
  rw [addressParts, addressParts, userPart_close]
  cases userPart s with
  | none => rfl
  | some user =>
    simp only [Option.map_some, Option.bind_eq_bind, Option.bind_some, close,
      just_close (c := '@') (by decide)]
    cases just '@' user.2 with
    | none => rfl
    | some at' =>
      simp only [Option.map_some, Option.bind_some, close, domainPart_close]
      cases domainPart at'.2 with
      | none => rfl
      | some domain => rfl

end Passcode.Mail
