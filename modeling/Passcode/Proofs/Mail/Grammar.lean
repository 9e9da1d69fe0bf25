import Passcode.Mail.Mailbox
import Passcode.Proofs.Text.Split
import Passcode.Proofs.Text.Trim

/-!
# What the steps of the mailbox grammar read

A step takes what it reads from the start of a text, so what it read is a first part of the text. A
word and a user are written as what they say, or between quotes; between quotes a quote has a
backslash before it. What a name says has no more characters than what is written, and at least two
fewer if there is a quote.

## Main definitions

* `IsEscaped` — every quote has a backslash before it
* `IsWritten` — how a word or a user is written
* `isPlainName` — a name can be written as it is
* `ReadsName` — how a name is written

## Main statements

* `quotedRest_eq_some`, `word_eq_some`, `name_eq_some` — what each step reads
* `name_append` — a plain name is read as itself
-/

namespace Passcode.Mail

open Passcode.Text (dropWhile_append_of_all head?_dropWhile exists_dropWhile forall_head?_cons)

/-! ## Rows of characters -/

/-- Whether a character may stand in a row of words and points. -/
def isDottedChar (c : Char) : Bool := isAtomChar c || c = '.'

theorem isDottedChar_of_isAtomChar {c : Char} (h : isAtomChar c = true) :
    isDottedChar c = true := by
  rw [isDottedChar, h, Bool.true_or]

/-- Only characters of a kind are in a text, so that any other is not. -/
theorem not_mem_of_forall {p : Char → Bool} {k : List Char} (h : ∀ c ∈ k, p c = true) {d : Char}
    (hd : p d = false) : d ∉ k := fun hmem => by
  rw [h d hmem] at hd
  cases hd

theorem isSpaceOrTab_eq_false_of_dotted {c : Char} (h : isDottedChar c = true) :
    isSpaceOrTab c = false := by
  cases hblank : isSpaceOrTab c with
  | false => rfl
  | true =>
    rw [isSpaceOrTab, Bool.or_eq_true, decide_eq_true_eq, decide_eq_true_eq] at hblank
    rcases hblank with rfl | rfl <;> exact absurd h (by decide)

theorem dropBlanks_of_dotted {c : Char} (h : isDottedChar c = true) (s : List Char) :
    dropBlanks (c :: s) = c :: s :=
  List.dropWhile_cons_of_neg (by rw [isSpaceOrTab_eq_false_of_dotted h]; exact Bool.false_ne_true)

theorem dropBlanks_append {b t : List Char} (hb : ∀ c ∈ b, isSpaceOrTab c = true)
    (ht : ∀ c ∈ t.head?, isSpaceOrTab c = false) : dropBlanks (b ++ t) = t :=
  dropWhile_append_of_all hb ht

/-- A text is one without a blank at its start, after blanks. -/
theorem exists_blanks (s : List Char) : ∃ b t, s = b ++ t ∧ dropBlanks s = t ∧
    (∀ c ∈ b, isSpaceOrTab c = true) ∧ ∀ c ∈ t.head?, isSpaceOrTab c = false := by
  obtain ⟨b, hb, hs⟩ := exists_dropWhile isSpaceOrTab s
  exact ⟨b, _, hs, rfl, hb, head?_dropWhile⟩

/-! ## Words -/

theorem atom_eq_some {s a rest : List Char} (h : atom s = some (a, rest)) :
    s = a ++ rest ∧ a ≠ [] ∧ ∀ c ∈ a, isAtomChar c = true := by
  unfold atom at h
  split at h
  · cases h
  · next hne =>
    obtain ⟨rfl, rfl⟩ := Prod.mk.inj (Option.some.inj h)
    exact ⟨List.takeWhile_append_dropWhile.symm, hne,
      fun _ => List.all_eq_true.1 List.all_takeWhile _⟩

theorem atom_append {a t : List Char} (hne : a ≠ []) (ha : ∀ c ∈ a, isAtomChar c = true)
    (ht : ∀ c ∈ t.head?, isAtomChar c = false) : atom (a ++ t) = some (a, t) := by
  have htake : (a ++ t).takeWhile isAtomChar = a := by
    rw [List.takeWhile_append_of_pos ha]
    cases t with
    | nil => simp
    | cons c t => simp [ht c rfl]
  unfold atom
  rw [htake, dropWhile_append_of_all ha ht]
  split
  · exact absurd rfl hne
  · rfl

theorem atom_of_not {c : Char} (hc : isAtomChar c = false) (s : List Char) :
    atom (c :: s) = none := by
  unfold atom
  rw [List.takeWhile_cons_of_neg (by rw [hc]; exact Bool.false_ne_true)]

/-- What starts with a character of a word starts with a word. -/
theorem exists_atoms {c : Char} (hc : isAtomChar c = true) (s : List Char) :
    ∃ a u, c :: s = a ++ u ∧ a ≠ [] ∧ (∀ d ∈ a, isAtomChar d = true) ∧
      ∀ d ∈ u.head?, isAtomChar d = false := by
  obtain ⟨a, ha, hs⟩ := exists_dropWhile isAtomChar s
  exact ⟨c :: a, _, by rw [List.cons_append, ← hs], List.cons_ne_nil c a,
    List.forall_mem_cons.2 ⟨hc, ha⟩, head?_dropWhile⟩

/-- Between quotes, every quote has a backslash before it. -/
def IsEscaped (q : List Char) : Prop := ∀ x y, q = x ++ '"' :: y → x.getLast? = some '\\'

theorem isEscaped_nil : IsEscaped [] := by
  intro x y h
  cases x <;> cases h

theorem IsEscaped.cons {c : Char} {q : List Char} (h : IsEscaped q) (hc : c ≠ '"') :
    IsEscaped (c :: q) := by
  intro x y hxy
  cases x with
  | nil => exact absurd (List.cons.inj hxy).1 hc
  | cons d x =>
    have hlast := h x y (List.cons.inj hxy).2
    rw [List.getLast?_cons, hlast]
    rfl

theorem IsEscaped.backslash {q : List Char} (h : IsEscaped q) (c : Char) :
    IsEscaped ('\\' :: c :: q) := by
  intro x y hxy
  match x, hxy with
  | [], hxy => exact absurd (List.cons.inj hxy).1 (by decide)
  | [d], hxy => rw [← (List.cons.inj hxy).1]; rfl
  | d :: e :: x, hxy =>
    have hlast := h x y (List.cons.inj (List.cons.inj hxy).2).2
    rw [List.getLast?_cons, List.getLast?_cons, hlast]
    rfl

theorem quotedRest_eq_some {pending s a rest : List Char}
    (h : quotedRest pending s = some (a, rest)) :
    ∃ q, s = q ++ '"' :: rest ∧ a.length ≤ pending.length + q.length ∧ IsEscaped q := by
  fun_induction quotedRest pending s generalizing a rest with
  | case1 => cases h
  | case2 pending s =>
    obtain ⟨rfl, rfl⟩ := Prod.mk.inj (Option.some.inj h)
    exact ⟨[], rfl, Nat.zero_le _, isEscaped_nil⟩
  | case3 pending c s hc ih =>
    obtain ⟨⟨a', rest'⟩, hrest, ha⟩ := Option.map_eq_some_iff.1 h
    obtain ⟨rfl, rfl⟩ := Prod.mk.inj ha
    obtain ⟨q, rfl, hlength, hq⟩ := ih hrest
    refine ⟨'\\' :: c :: q, rfl, ?_, hq.backslash c⟩
    simp only [List.length_append, List.length_cons, List.length_nil] at hlength ⊢
    omega
  | case4 => cases h
  | case5 pending c s hquote _ hblank ih =>
    obtain ⟨q, rfl, hlength, hq⟩ := ih h
    refine ⟨c :: q, rfl, ?_, hq.cons hquote⟩
    simp only [List.length_cons, List.length_nil] at hlength ⊢
    omega
  | case6 pending c s hquote _ hblank hc ih =>
    obtain ⟨⟨a', rest'⟩, hrest, ha⟩ := Option.map_eq_some_iff.1 h
    obtain ⟨rfl, rfl⟩ := Prod.mk.inj ha
    obtain ⟨q, rfl, hlength, hq⟩ := ih hrest
    refine ⟨c :: q, rfl, ?_, hq.cons hquote⟩
    simp only [List.length_append, List.length_cons, List.length_nil] at hlength ⊢
    omega
  | case7 => cases h

/-- How a text is written: as it is, with characters of a kind only, or between quotes. -/
inductive IsWritten (p : Char → Bool) : List Char → List Char → Prop where
  | plain {a : List Char} : a ≠ [] → (∀ c ∈ a, p c = true) → IsWritten p a a
  | quoted {q a : List Char} : a.length ≤ q.length → IsEscaped q →
    IsWritten p ('"' :: (q ++ ['"'])) a

theorem IsWritten.mono {p p' : Char → Bool} (hp : ∀ c, p c = true → p' c = true)
    {k a : List Char} (h : IsWritten p k a) : IsWritten p' k a := by
  cases h with
  | plain hne ha => exact .plain hne fun c hc => hp c (ha c hc)
  | quoted hlength hq => exact .quoted hlength hq

theorem IsWritten.length_pos {p : Char → Bool} {k a : List Char} (h : IsWritten p k a) :
    0 < k.length := by
  cases h with
  | plain hne ha => exact List.length_pos_iff.2 hne
  | quoted => exact Nat.succ_pos _

theorem quotedWord_eq_some {p : Char → Bool} {s a rest : List Char}
    (h : quotedWord s = some (a, rest)) : ∃ k, s = k ++ rest ∧ IsWritten p k a := by
  unfold quotedWord at h
  split at h
  · obtain ⟨q, rfl, hlength, hq⟩ := quotedRest_eq_some h
    rw [List.length_nil, Nat.zero_add] at hlength
    exact ⟨'"' :: (q ++ ['"']), by simp, .quoted hlength hq⟩
  · cases h

theorem word_eq_some {s a rest : List Char} (h : word s = some (a, rest)) :
    ∃ k, s = k ++ rest ∧ IsWritten isAtomChar k a := by
  rcases Option.or_eq_some_iff.1 h with hquoted | ⟨-, hatom⟩
  · exact quotedWord_eq_some hquoted
  · obtain ⟨hs, hne, ha⟩ := atom_eq_some hatom
    exact ⟨a, hs, .plain hne ha⟩

theorem namePart_eq_some {s a rest : List Char} (h : namePart s = some (a, rest)) :
    ∃ k, s = k ++ rest ∧ IsWritten isDottedChar k a := by
  rcases Option.or_eq_some_iff.1 h with hword | ⟨-, hpoint⟩
  · obtain ⟨k, hs, hk⟩ := word_eq_some hword
    exact ⟨k, hs, hk.mono fun _ => isDottedChar_of_isAtomChar⟩
  · unfold just at hpoint
    split at hpoint
    · split at hpoint
      · next hd =>
        obtain ⟨rfl, rfl⟩ := Prod.mk.inj (Option.some.inj hpoint)
        exact ⟨_, rfl, .plain (List.cons_ne_nil _ _) (by simp [isDottedChar, hd])⟩
      · cases hpoint
    · cases hpoint

/-! ### What is written and what it says -/

section IsWritten

variable {p : Char → Bool} {k a : List Char}

theorem IsWritten.length_le (h : IsWritten p k a) : a.length ≤ k.length := by
  cases h with
  | plain => exact Nat.le_refl _
  | quoted hlength => rw [List.length_cons, List.length_append]; omega

/-- Quotes are not part of what a text says. -/
theorem IsWritten.of_mem (h : IsWritten p k a) (hp : p '"' = false) (hquote : '"' ∈ k) :
    a.length + 2 ≤ k.length := by
  cases h with
  | plain _ ha =>
    rw [ha _ hquote] at hp
    cases hp
  | quoted hlength =>
    rw [List.length_cons, List.length_append, List.length_singleton]
    omega

theorem IsWritten.of_not_mem (h : IsWritten p k a) (hquote : '"' ∉ k) :
    k = a ∧ a ≠ [] ∧ ∀ c ∈ a, p c = true := by
  cases h with
  | plain hne ha => exact ⟨rfl, hne, ha⟩
  | quoted => exact absurd List.mem_cons_self hquote

end IsWritten

/-! ## Names -/

/-- Whether a text is a row of words and points with at most one blank before each. -/
def isPlainRest : List Char → Bool
  | [] => true
  | ' ' :: c :: s => isDottedChar c && isPlainRest s
  | c :: s => isDottedChar c && isPlainRest s

/-- Whether a name can be written as it is: a row of words and points with single blanks between
them, and a word first. -/
def isPlainName : List Char → Bool
  | [] => false
  | c :: s => isAtomChar c && isPlainRest s

theorem isPlainRest_cons {c : Char} (hc : isDottedChar c = true) (s : List Char) :
    isPlainRest (c :: s) = isPlainRest s := by
  have hblank : c ≠ ' ' := by
    rintro rfl
    exact absurd hc (by decide)
  conv_lhs => unfold isPlainRest
  split
  · next h => cases h
  · next h => exact absurd (List.cons.inj h).1 hblank
  · next h =>
    obtain ⟨rfl, rfl⟩ := List.cons.inj h
    rw [hc, Bool.true_and]

theorem isPlainRest_append {a : List Char} (ha : ∀ c ∈ a, isDottedChar c = true) (s : List Char) :
    isPlainRest (a ++ s) = isPlainRest s := by
  induction a with
  | nil => rfl
  | cons c a ih =>
    rw [List.cons_append, isPlainRest_cons (ha c List.mem_cons_self),
      ih fun d hd => ha d (List.mem_cons_of_mem c hd)]

theorem isPlainName_append {a : List Char} (hne : a ≠ []) (ha : ∀ c ∈ a, isAtomChar c = true)
    (s : List Char) : isPlainName (a ++ s) = isPlainRest s := by
  obtain ⟨c, a, rfl⟩ := List.exists_cons_of_ne_nil hne
  rw [List.cons_append, isPlainName, ha c List.mem_cons_self, Bool.true_and,
    isPlainRest_append fun d hd => isDottedChar_of_isAtomChar (ha d (List.mem_cons_of_mem c hd))]

/-- A plain row starts with a word or a point, or with a blank and one of these. -/
theorem of_isPlainRest {s : List Char} (h : isPlainRest s = true) (hne : s ≠ []) :
    ∃ b c u, s = b ++ c :: u ∧ (b = [] ∨ b = [' ']) ∧ isDottedChar c = true ∧
      isPlainRest (c :: u) = true := by
  unfold isPlainRest at h
  split at h
  · exact absurd rfl hne
  · next c u =>
    obtain ⟨hc, hu⟩ := (Bool.and_eq_true _ _).mp h
    exact ⟨[' '], c, u, rfl, .inr rfl, hc, by rwa [isPlainRest_cons hc]⟩
  · next c u _ =>
    obtain ⟨hc, hu⟩ := (Bool.and_eq_true _ _).mp h
    exact ⟨[], c, u, rfl, .inl rfl, hc, by rwa [isPlainRest_cons hc]⟩

/-- What blanks between two parts of a name count as. -/
def oneBlank (b : List Char) : List Char := if b = [] then [] else [' ']

theorem isPlainRest_part {a s : List Char} (b : List Char) (hne : a ≠ [])
    (ha : ∀ c ∈ a, isDottedChar c = true) (hs : isPlainRest s = true) :
    isPlainRest (oneBlank b ++ a ++ s) = true := by
  obtain ⟨c, a, rfl⟩ := List.exists_cons_of_ne_nil hne
  have hrest : isPlainRest (a ++ s) = true := by
    rwa [isPlainRest_append fun d hd => ha d (List.mem_cons_of_mem c hd)]
  have hc := ha c List.mem_cons_self
  cases b with
  | nil => exact (isPlainRest_cons hc _).trans hrest
  | cons => exact (Bool.and_eq_true _ _).mpr ⟨hc, hrest⟩

section NameRest

variable {b t : List Char} (hb : ∀ c ∈ b, isSpaceOrTab c = true)
  (ht : ∀ c ∈ t.head?, isSpaceOrTab c = false)

include hb ht

theorem nameRest_none (h : namePart t = none) : nameRest (b ++ t) = ([], t) := by
  rw [nameRest, dropBlanks_append hb ht]
  simp only [h]

theorem nameRest_some {a rest : List Char} (h : namePart t = some (a, rest)) :
    nameRest (b ++ t) = (oneBlank b ++ a ++ (nameRest rest).1, (nameRest rest).2) := by
  obtain ⟨k, rfl, hwritten⟩ := namePart_eq_some h
  have hpos := hwritten.length_pos
  have hless : rest.length < (b ++ (k ++ rest)).length := by
    rw [List.length_append, List.length_append]
    omega
  have hblank : (if (k ++ rest).length < (b ++ (k ++ rest)).length then [' '] else [])
      = oneBlank b := by
    cases b with
    | nil => exact if_neg (Nat.lt_irrefl _)
    | cons => exact if_pos (by simp only [List.length_append, List.length_cons]; omega)
  rw [nameRest, dropBlanks_append hb ht]
  simp only [h, hless, dif_pos, hblank]

end NameRest

/-- How a name, or what of a name is left, is written. Without a quote it is plain. -/
structure ReadsName (isPlain : List Char → Bool) (k a : List Char) : Prop where
  length_le : a.length ≤ k.length
  of_mem : '"' ∈ k → a.length + 2 ≤ k.length
  of_not_mem : '"' ∉ k → isPlain a = true

theorem ReadsName.of_blanks {b : List Char} (hb : ∀ c ∈ b, isSpaceOrTab c = true) :
    ReadsName isPlainRest b [] where
  length_le := Nat.zero_le _
  of_mem h := absurd h (not_mem_of_forall hb (by decide))
  of_not_mem _ := rfl

theorem ReadsName.part {b k a k' a' : List Char} (hb : ∀ c ∈ b, isSpaceOrTab c = true)
    (h : IsWritten isDottedChar k a) (h' : ReadsName isPlainRest k' a') :
    ReadsName isPlainRest (b ++ (k ++ k')) (oneBlank b ++ a ++ a') := by
  have hblank : (oneBlank b).length ≤ b.length := by
    cases b with
    | nil => exact Nat.le_refl 0
    | cons => exact Nat.succ_le_succ (Nat.zero_le _)
  have hlength := h.length_le
  have hlength' := h'.length_le
  constructor
  · simp only [List.length_append]
    omega
  · intro hquote
    simp only [List.mem_append, not_mem_of_forall hb (d := '"') (by decide), false_or] at hquote
    simp only [List.length_append]
    rcases hquote with hk | hk'
    · have := h.of_mem (by decide) hk
      omega
    · have := h'.of_mem hk'
      omega
  · intro hquote
    simp only [List.mem_append, not_or] at hquote
    obtain ⟨-, hk, hk'⟩ := hquote
    obtain ⟨rfl, hne, hdotted⟩ := h.of_not_mem hk
    exact isPlainRest_part b hne hdotted (h'.of_not_mem hk')

/-- What `nameRest` reads. -/
theorem readsRest (s : List Char) :
    ∃ k, s = k ++ (nameRest s).2 ∧ ReadsName isPlainRest k (nameRest s).1 := by
  induction hlength : s.length using Nat.strongRecOn generalizing s with
  | ind n ih =>
    obtain ⟨b, t, rfl, -, hb, ht⟩ := exists_blanks s
    cases hpart : namePart t with
    | none =>
      rw [nameRest_none hb ht hpart]
      exact ⟨b, rfl, .of_blanks hb⟩
    | some part =>
      obtain ⟨a, rest⟩ := part
      rw [nameRest_some hb ht hpart]
      obtain ⟨k, rfl, hwritten⟩ := namePart_eq_some hpart
      have hpos := hwritten.length_pos
      obtain ⟨k', hrest, hreads⟩ := ih rest.length
        (by rw [← hlength, List.length_append, List.length_append]; omega) rest rfl
      refine ⟨b ++ (k ++ k'), ?_, .part hb hwritten hreads⟩
      rw [List.append_assoc, List.append_assoc, ← hrest]

/-- What `name` reads. -/
theorem name_eq_some {s a rest : List Char} (h : name s = some (a, rest)) :
    ∃ k, s = k ++ rest ∧ ReadsName isPlainName k a := by
  obtain ⟨⟨w, s'⟩, hword, hrest⟩ := Option.bind_eq_some_iff.1 h
  obtain ⟨rfl, rfl⟩ := Prod.mk.inj (Option.some.inj hrest)
  obtain ⟨k, rfl, hwritten⟩ := word_eq_some hword
  obtain ⟨k', hs', hreads⟩ := readsRest s'
  have hlength := hwritten.length_le
  have hlength' := hreads.length_le
  refine ⟨k ++ k', by rw [List.append_assoc, ← hs'], ?_, fun hquote => ?_, fun hquote => ?_⟩
  · rw [List.length_append, List.length_append]
    omega
  · rw [List.length_append, List.length_append]
    rcases List.mem_append.1 hquote with hk | hk'
    · have := hwritten.of_mem (by decide) hk
      omega
    · have := hreads.of_mem hk'
      omega
  · rw [List.mem_append, not_or] at hquote
    obtain ⟨rfl, hne, hatoms⟩ := hwritten.of_not_mem hquote.1
    exact (isPlainName_append hne hatoms _).trans (hreads.of_not_mem hquote.2)

/-! ### Plain names -/

theorem quotedWord_of_ne {c : Char} (hc : c ≠ '"') (s : List Char) :
    quotedWord (c :: s) = none := by
  unfold quotedWord
  split
  · next h => exact absurd (List.cons.inj h).1 hc
  · rfl

/-- A word without quotes is read up to the first character that cannot be part of it. -/
theorem word_append {c : Char} (hc : isAtomChar c = true) (s : List Char) {t : List Char}
    (ht : ∀ d ∈ t.head?, isAtomChar d = false) : ∃ a u, c :: s = a ++ u ∧ a ≠ [] ∧
      (∀ d ∈ a, isAtomChar d = true) ∧ word (c :: s ++ t) = some (a, u ++ t) := by
  have hquote : c ≠ '"' := by
    rintro rfl
    exact absurd hc (by decide)
  obtain ⟨a, u, hs, hne, ha, hu⟩ := exists_atoms hc s
  have hhead : ∀ d ∈ (u ++ t).head?, isAtomChar d = false := by
    cases u with
    | nil => exact ht
    | cons d u => exact hu
  refine ⟨a, u, hs, hne, ha, ?_⟩
  rw [word, List.cons_append, quotedWord_of_ne hquote, ← List.cons_append, hs, List.append_assoc,
    atom_append hne ha hhead]
  rfl

/-- A part of a name without quotes is read up to a character that cannot be part of it. -/
theorem namePart_append {c : Char} (hc : isDottedChar c = true) (s : List Char) {t : List Char}
    (ht : ∀ d ∈ t.head?, isAtomChar d = false) : ∃ a u, c :: s = a ++ u ∧ a ≠ [] ∧
      (∀ d ∈ a, isDottedChar d = true) ∧ namePart (c :: s ++ t) = some (a, u ++ t) := by
  cases hatom : isAtomChar c with
  | true =>
    obtain ⟨a, u, hs, hne, ha, hword⟩ := word_append hatom s ht
    refine ⟨a, u, hs, hne, fun d hd => isDottedChar_of_isAtomChar (ha d hd), ?_⟩
    rw [namePart, hword]
    rfl
  | false =>
    obtain rfl : c = '.' := by simpa [isDottedChar, hatom] using hc
    exact ⟨['.'], s, rfl, List.cons_ne_nil _ _, by simp [hc], rfl⟩

/-- A plain row is read as itself before a blank and a bracket. -/
theorem nameRest_append {s : List Char} (h : isPlainRest s = true) (t : List Char) :
    nameRest (s ++ ' ' :: '<' :: t) = (s, '<' :: t) := by
  induction hlength : s.length using Nat.strongRecOn generalizing s with
  | ind n ih =>
    by_cases hne : s = []
    · rw [hne]
      exact nameRest_none (b := [' ']) (by simp [isSpaceOrTab])
        (forall_head?_cons (by decide) t) rfl
    · obtain ⟨b, c, u, rfl, hb, hc, hplain⟩ := of_isPlainRest h hne
      obtain ⟨a, v, hu, hane, ha, hpart⟩ :=
        namePart_append hc u (t := ' ' :: '<' :: t) (forall_head?_cons (by decide) _)
      have hblanks : ∀ d ∈ b, isSpaceOrTab d = true := by
        rcases hb with rfl | rfl <;> simp [isSpaceOrTab]
      have hone : oneBlank b = b := by
        rcases hb with rfl | rfl <;> rfl
      have hrest : nameRest (v ++ ' ' :: '<' :: t) = (v, '<' :: t) := by
        refine ih v.length ?_ ?_ rfl
        · have := List.length_pos_iff.2 hane
          rw [← hlength, hu, List.length_append, List.length_append]
          omega
        · rwa [hu, isPlainRest_append ha] at hplain
      have hhead : ∀ d ∈ (c :: u ++ ' ' :: '<' :: t).head?, isSpaceOrTab d = false :=
        forall_head?_cons (isSpaceOrTab_eq_false_of_dotted hc) _
      rw [List.append_assoc, nameRest_some hblanks hhead hpart, hrest, hone, hu, List.append_assoc]

/-- **A plain name is read as itself** before a blank and a bracket. -/
theorem name_append {s : List Char} (h : isPlainName s = true) (t : List Char) :
    name (s ++ ' ' :: '<' :: t) = some (s, '<' :: t) := by
  cases s with
  | nil => cases h
  | cons c s =>
    have hc := ((Bool.and_eq_true _ _).mp h).1
    obtain ⟨a, u, hs, hne, ha, hword⟩ :=
      word_append hc s (t := ' ' :: '<' :: t) (forall_head?_cons (by decide) _)
    rw [hs, isPlainName_append hne ha] at h
    rw [name, hword, hs]
    simp only [Option.bind_eq_bind, Option.bind_some, nameRest_append h t]
    rfl

end Passcode.Mail
