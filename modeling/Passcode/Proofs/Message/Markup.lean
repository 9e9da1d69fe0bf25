import Mathlib.Data.List.Infix

/-!
# Marked-up text

Marked-up text is read from left to right. A `<` opens a tag if what follows can be the start of
one, and the tag goes to the next `>`; the characters `<`, `>` and `&` have names, each between an
ampersand and a semicolon; everything else stands for itself. What is shown are the characters
without the tags.

A text in which neither a tag nor a name starts anywhere is plain. Plain text is shown as it is, and
of any other text less is shown than is there, whatever follows it.

## Main definitions

* `read`, `shown` — the pieces of a marked-up text, and the characters among them
* `IsPlain` — nothing in a text is markup

## Main statements

* `read_append_of_isPlain` — plain text is read as itself
* `length_shown_lt` — of text that is not plain less is shown
-/

namespace Passcode.Markup

/-- A piece of a marked-up text: a character that is shown, or a tag with what is in it. -/
inductive Piece where
  | char (c : Char)
  | tag (inner : List Char)
deriving Repr, DecidableEq

/-- Whether a `<` before a character opens a tag. -/
def opensTag (c : Char) : Bool := c.isAlpha || c = '/' || c = '!' || c = '?'

/-- The pieces of a marked-up text; within a tag, what there is of the tag so far, last character
first. A tag that is never closed is not a piece. -/
def read : Option (List Char) → List Char → List Piece
  | none, '&' :: 'l' :: 't' :: ';' :: s => .char '<' :: read none s
  | none, '&' :: 'g' :: 't' :: ';' :: s => .char '>' :: read none s
  | none, '&' :: 'a' :: 'm' :: 'p' :: ';' :: s => .char '&' :: read none s
  | none, '<' :: c :: s =>
    if opensTag c then read (some [c]) s else .char '<' :: read none (c :: s)
  | none, c :: s => .char c :: read none s
  | none, [] => []
  | some inner, '>' :: s => .tag inner.reverse :: read none s
  | some inner, c :: s => read (some (c :: inner)) s
  | some _, [] => []

/-- The character of a piece, if it is shown. -/
def Piece.char? : Piece → Option Char
  | char c => some c
  | tag _ => none

/-- What is shown of some pieces. -/
def shown (ps : List Piece) : List Char := ps.filterMap Piece.char?

@[simp] theorem shown_nil : shown [] = [] := rfl

@[simp] theorem shown_char (c : Char) (ps : List Piece) :
    shown (.char c :: ps) = c :: shown ps := rfl

@[simp] theorem shown_tag (inner : List Char) (ps : List Piece) :
    shown (.tag inner :: ps) = shown ps := rfl

@[simp] theorem shown_append (ps qs : List Piece) : shown (ps ++ qs) = shown ps ++ shown qs :=
  List.filterMap_append

@[simp] theorem shown_map_char (s : List Char) : shown (s.map .char) = s := by
  induction s with
  | nil => rfl
  | cons c s ih => rw [List.map_cons, shown_char, ih]

/-! ## Plain text -/

/-- The names of the characters that have one. -/
def names : List (List Char) := ["&lt;".toList, "&gt;".toList, "&amp;".toList]

/-- Whether a text starts with a tag. -/
def startsTag : List Char → Bool
  | '<' :: c :: _ => opensTag c
  | _ => false

/-- Whether a text starts with a tag or the name of a character. -/
def startsMarkup (s : List Char) : Bool := startsTag s || names.any (·.isPrefixOf s)

/-- Nothing in a text is markup. -/
def IsPlain (s : List Char) : Prop := ∀ t, t <:+ s → startsMarkup t = false

theorem isPlain_nil : IsPlain [] := by
  intro t ht
  rw [List.suffix_nil.1 ht]
  rfl

theorem isPlain_cons {c : Char} {s : List Char} :
    IsPlain (c :: s) ↔ startsMarkup (c :: s) = false ∧ IsPlain s := by
  simp only [IsPlain, List.suffix_cons_iff, forall_eq_or_imp]

/-- What starts with another character than `<` and an ampersand does not start with markup. -/
theorem startsMarkup_of_ne {c : Char} (hless : c ≠ '<') (hand : c ≠ '&') (s : List Char) :
    startsMarkup (c :: s) = false := by
  have htag : startsTag (c :: s) = false := by
    unfold startsTag
    split <;> simp_all
  have hname : (c == '&') = false := beq_eq_false_iff_ne.2 hand
  simp [startsMarkup, htag, names, List.isPrefixOf, Ne.symm hand]

/-- Where no markup starts, a character is read. -/
theorem read_cons {c : Char} {s : List Char} (h : startsMarkup (c :: s) = false) :
    read none (c :: s) = .char c :: read none s := by
  conv_lhs => unfold read
  split <;> simp_all [startsMarkup, startsTag, names, List.isPrefixOf]

theorem isPrefixOf_append_blank {name : List Char} (h : ' ' ∉ name) (s t : List Char) :
    name.isPrefixOf (s ++ ' ' :: t) = name.isPrefixOf s := by
  induction s generalizing name with
  | nil =>
    cases name with
    | nil => rfl
    | cons c name =>
      have hc : (c == ' ') = false := beq_eq_false_iff_ne.2 fun hc => h (hc ▸ List.mem_cons_self)
      simp [List.isPrefixOf, hc]
  | cons c s ih =>
    cases name with
    | nil => rfl
    | cons d name =>
      rw [List.cons_append, List.isPrefixOf, List.isPrefixOf,
        ih fun hmem => h (List.mem_cons_of_mem d hmem)]

/-- A blank continues no markup. -/
theorem startsMarkup_append_blank (c : Char) (s t : List Char) :
    startsMarkup (c :: s ++ ' ' :: t) = startsMarkup (c :: s) := by
  have htag : startsTag (c :: s ++ ' ' :: t) = startsTag (c :: s) := by
    cases s with
    | nil => by_cases hc : c = '<' <;> simp [startsTag, hc, opensTag]
    | cons d s => by_cases hc : c = '<' <;> simp [startsTag, hc]
  have hnames : ∀ name ∈ names, ' ' ∉ name := by decide
  have hany : names.any (·.isPrefixOf (c :: s ++ ' ' :: t))
      = names.any (·.isPrefixOf (c :: s)) := by
    rw [Bool.eq_iff_iff, List.any_eq_true, List.any_eq_true]
    refine exists_congr fun name => and_congr_right fun hname => ?_
    rw [isPrefixOf_append_blank (hnames name hname)]
  rw [startsMarkup, startsMarkup, htag, hany]

/-- **Plain text is read as itself.** -/
theorem read_append_of_isPlain {s : List Char} (h : IsPlain s) (t : List Char) :
    read none (s ++ ' ' :: t) = s.map .char ++ read none (' ' :: t) := by
  induction s with
  | nil => rfl
  | cons c s ih =>
    obtain ⟨hstart, hrest⟩ := isPlain_cons.1 h
    rw [List.cons_append, read_cons (by rwa [← List.cons_append, startsMarkup_append_blank]),
      ih hrest, List.map_cons, List.cons_append]

/-- Text without a `<` and an ampersand is read as itself, whatever follows it. -/
theorem read_append_of_not_mem {s : List Char} (hless : '<' ∉ s) (hand : '&' ∉ s) (t : List Char) :
    read none (s ++ t) = s.map .char ++ read none t := by
  induction s with
  | nil => rfl
  | cons c s ih =>
    simp only [List.mem_cons, not_or] at hless hand
    rw [List.cons_append, read_cons (startsMarkup_of_ne (Ne.symm hless.1) (Ne.symm hand.1) _),
      ih hless.2 hand.2, List.map_cons, List.cons_append]

/-! ## Markup -/

theorem read_some_cons {c : Char} (hc : c ≠ '>') (inner s : List Char) :
    read (some inner) (c :: s) = read (some (c :: inner)) s := by
  conv_lhs => unfold read
  split <;> simp_all

/-- A tag goes to the next `>`. -/
theorem read_some_append {u : List Char} (hu : '>' ∉ u) (inner t : List Char) :
    read (some inner) (u ++ '>' :: t) = .tag (inner.reverse ++ u) :: read none t := by
  induction u generalizing inner with
  | nil => rw [List.append_nil]; rfl
  | cons c u ih =>
    simp only [List.mem_cons, not_or] at hu
    rw [List.cons_append, read_some_cons (Ne.symm hu.1), ih hu.2, List.reverse_cons,
      List.append_assoc, List.singleton_append]

theorem read_less {c : Char} (hc : opensTag c = true) (s : List Char) :
    read none ('<' :: c :: s) = read (some [c]) s := by
  rw [read, if_pos hc]

/-- A tag is read as such. -/
theorem read_tag {inner : List Char} (hopens : inner.head?.any opensTag = true)
    (hclose : '>' ∉ inner) (t : List Char) :
    read none ('<' :: inner ++ '>' :: t) = .tag inner :: read none t := by
  cases inner with
  | nil => exact absurd hopens nofun
  | cons c u =>
    rw [List.cons_append, List.cons_append, read_less (by simpa using hopens),
      read_some_append fun h => hclose (List.mem_cons_of_mem c h)]
    rfl

/-- The name of a character is read as the character. -/
theorem read_name : ∀ name ∈ names, ∃ c, ∀ s, read none (name ++ s) = .char c :: read none s := by
  simp only [names, List.forall_mem_cons]
  exact ⟨⟨'<', fun _ => rfl⟩, ⟨'>', fun _ => rfl⟩, ⟨'&', fun _ => rfl⟩, nofun⟩

/-- What starts with markup starts with a tag or with a name. -/
theorem of_startsMarkup {s : List Char} (h : startsMarkup s = true) :
    (∃ c u, s = '<' :: c :: u ∧ opensTag c = true) ∨ ∃ name ∈ names, ∃ u, s = name ++ u := by
  rw [startsMarkup, Bool.or_eq_true, List.any_eq_true] at h
  rcases h with h | ⟨name, hname, h⟩
  · unfold startsTag at h
    split at h
    · exact .inl ⟨_, _, rfl, h⟩
    · cases h
  · obtain ⟨u, hu⟩ := List.isPrefixOf_iff_prefix.1 h
    exact .inr ⟨name, hname, u, hu.symm⟩

/-- Markup at the start is longer than what is shown of it. -/
theorem exists_read_of_startsMarkup {s : List Char} (h : startsMarkup s = true) :
    ∃ u inner?, u.length < s.length ∧ ∀ t,
      (shown (read none (s ++ t))).length + u.length
        < s.length + (shown (read inner? (u ++ t))).length := by
  rcases of_startsMarkup h with ⟨c, u, rfl, hopens⟩ | ⟨name, hname, u, rfl⟩
  · refine ⟨u, some [c], by simp only [List.length_cons]; omega, fun t => ?_⟩
    rw [List.cons_append, List.cons_append, read_less hopens, List.length_cons, List.length_cons]
    omega
  · obtain ⟨c, hc⟩ := read_name name hname
    have hlength : ∀ name ∈ names, 1 < name.length := by decide
    have hname := hlength name hname
    refine ⟨u, none, by rw [List.length_append]; omega, fun t => ?_⟩
    rw [List.append_assoc, hc, shown_char, List.length_cons, List.length_append]
    omega

section Length

variable {t : List Char} (ht : ∀ inner, (shown (read (some inner) (' ' :: t))).length
  ≤ (shown (read none (' ' :: t))).length)

include ht

/-- Nothing is shown that is not there, if of the text that follows no more is shown within a
tag. -/
theorem length_shown_le : ∀ (s : List Char) (inner? : Option (List Char)),
    (shown (read inner? (s ++ ' ' :: t))).length
      ≤ s.length + (shown (read none (' ' :: t))).length
  | [], none => by
    rw [List.nil_append]
    exact Nat.le_add_left _ _
  | [], some inner => by
    rw [List.nil_append]
    exact (ht inner).trans (Nat.le_add_left _ _)
  | c :: s, some inner => by
    by_cases hc : c = '>'
    · have hrest := length_shown_le s none
      have hclose := read_some_append (u := []) List.not_mem_nil inner (s ++ ' ' :: t)
      rw [List.nil_append] at hclose
      rw [hc, List.cons_append, hclose, shown_tag, List.length_cons]
      omega
    · have hrest := length_shown_le s (some (c :: inner))
      rw [List.cons_append, read_some_cons hc, List.length_cons]
      omega
  | c :: s, none => by
    cases hstart : startsMarkup (c :: s) with
    | false =>
      have hrest := length_shown_le s none
      rw [List.cons_append, read_cons (by rwa [← List.cons_append, startsMarkup_append_blank]),
        shown_char, List.length_cons, List.length_cons]
      omega
    | true =>
      obtain ⟨u, inner?, hshort, hless⟩ := exists_read_of_startsMarkup hstart
      have hrest := length_shown_le u inner?
      have hless := hless (' ' :: t)
      omega
termination_by s => s.length
decreasing_by
  · exact Nat.lt_succ_self s.length
  · exact Nat.lt_succ_self s.length
  · exact Nat.lt_succ_self s.length
  · exact hshort

/-- **Of text that is not plain less is shown than is there**, whatever follows it. -/
theorem length_shown_lt {s : List Char} (h : ¬IsPlain s) :
    (shown (read none (s ++ ' ' :: t))).length
      < s.length + (shown (read none (' ' :: t))).length := by
  induction s with
  | nil => exact absurd isPlain_nil h
  | cons c s ih =>
    cases hstart : startsMarkup (c :: s) with
    | false =>
      have hrest := ih fun hs => h (isPlain_cons.2 ⟨hstart, hs⟩)
      rw [List.cons_append, read_cons (by rwa [← List.cons_append, startsMarkup_append_blank]),
        shown_char, List.length_cons, List.length_cons]
      omega
    | true =>
      obtain ⟨u, inner?, -, hless⟩ := exists_read_of_startsMarkup hstart
      have hrest := length_shown_le ht u inner?
      have hless := hless (' ' :: t)
      omega

end Length

end Passcode.Markup
