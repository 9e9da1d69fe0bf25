import Passcode.Json.Reader
import Passcode.Json.Value

/-!
# Written strings and integers

A string and an integer that the program writes are read back as they were, whatever follows them.
A string may hold any characters: those that are escaped come back from their escapes, and a number
of a code point is never half a surrogate pair. An integer has to fit 64 bits, for a larger one is
read as a float.

## Main definitions

* `Piece.StandsFor` — a piece of a literal gives a character
* `EndsNumber` — a text that does not go on with a number
* `Number.ofInt` — an integer as a reader meets it

## Main statements

* `string_literal` — a written string is read back
* `number_toDigits` — so is a written integer
-/

namespace Passcode.Json

open Passcode.Text (isDigit digitValue digitsValue)

/-! ## Strings -/

/-- A piece of a literal gives a character: it is the character, or the number of one that is
always escaped. -/
def Piece.StandsFor (p : Piece) (c : Char) : Prop := p = .char c ∨ p = .unit c.toNat ∧ c < ' '

theorem digitIn?_hexDigit : ∀ n < 16, Text.digitIn? 16 (hexDigit n) = some n := by decide

/-- The number of a control character is read from its four digits. -/
theorem unit?_hexDigit {n : Nat} (h : n < 256) :
    unit? '0' '0' (hexDigit (n / 16)) (hexDigit (n % 16)) = some n := by
  have hzero : Text.digitIn? 16 '0' = some 0 := by decide
  have hhigh := digitIn?_hexDigit (n / 16) (by omega)
  have hlow := digitIn?_hexDigit (n % 16) (by omega)
  simp [unit?, Text.natInBase?, hzero, hhigh, hlow, Nat.div_add_mod]

theorem toNat_lt_of_lt_space {c : Char} (h : c < ' ') : c.toNat < 32 := h

/-- An escaped character is one piece. -/
theorem pieces_escape (c : Char) (rest : List Char) :
    ∃ p : Piece, p.StandsFor c
      ∧ pieces (escape c ++ rest) = (p :: (pieces rest).1, (pieces rest).2) := by
  unfold escape
  -- The named escapes come first, then the numbered ones, then the characters written as they are.
  split
  · next h => exact ⟨.char c, .inl rfl, by simp [pieces, escaped?, h]⟩
  split
  · next h => exact ⟨.char c, .inl rfl, by simp [pieces, escaped?, h]⟩
  split
  · next h => exact ⟨.char c, .inl rfl, by simp [pieces, escaped?, h]⟩
  split
  · next h => exact ⟨.char c, .inl rfl, by simp [pieces, escaped?, h]⟩
  split
  · next h => exact ⟨.char c, .inl rfl, by simp [pieces, escaped?, h]⟩
  split
  · next h => exact ⟨.char c, .inl rfl, by simp [pieces, escaped?, h]⟩
  split
  · next h => exact ⟨.char c, .inl rfl, by simp [pieces, escaped?, h]⟩
  split
  · next h =>
    have hunit := unit?_hexDigit (n := c.toNat) (by have := toNat_lt_of_lt_space h; omega)
    exact ⟨.unit c.toNat, .inr ⟨rfl, h⟩, by simp [pieces, hunit]⟩
  · next hquote hslash _ _ _ _ _ hspace =>
    refine ⟨.char c, .inl rfl, ?_⟩
    rw [List.singleton_append, pieces.eq_def]
    split <;> simp_all

/-- Joining pieces gives the characters they stand for. -/
theorem joinPieces_cons {p : Piece} {c : Char} (h : p.StandsFor c) (frontier : Flaw)
    (ps : List Piece) :
    joinPieces none frontier (p :: ps) = (joinPieces none frontier ps).map (c :: ·) := by
  obtain rfl | ⟨rfl, hc⟩ := h
  · simp [joinPieces]
  · have hlt := toNat_lt_of_lt_space hc
    have hlow : isLowHalf c.toNat = false := by simp [isLowHalf]; omega
    have hhigh : isHighHalf c.toNat = false := by simp [isHighHalf]; omega
    rw [joinPieces.eq_def]
    simp [hlow, hhigh]

theorem pieces_literal (s : List Char) (rest : List Char) (frontier : Flaw) :
    joinPieces none frontier (pieces (s.flatMap escape ++ '"' :: rest)).1 = .ok s
      ∧ (pieces (s.flatMap escape ++ '"' :: rest)).2 = .ok rest := by
  induction s with
  | nil => simp [pieces, joinPieces]
  | cons c s ih =>
    obtain ⟨p, hp, heq⟩ := pieces_escape c (s.flatMap escape ++ '"' :: rest)
    rw [List.flatMap_cons, List.append_assoc, heq]
    refine ⟨?_, ih.2⟩
    rw [joinPieces_cons hp, ih.1]
    rfl

/-- **A written string is read back.** -/
theorem string_literal (s : String) (rest : List Char) :
    string none (s.toList.flatMap escape ++ '"' :: rest)
      = (Tree.ofScalar (.string s), some rest) := by
  obtain ⟨hjoin, hrest⟩ := pieces_literal s.toList rest .malformed
  unfold string
  generalize pieces (s.toList.flatMap escape ++ '"' :: rest) = found at hjoin hrest
  obtain ⟨ps, after⟩ := found
  obtain rfl : after = .ok rest := hrest
  have hps : joinPieces none .malformed ps = .ok s.toList := hjoin
  simp [hps, Tree.ofScalar, Except.map]

/-! ## Integers -/

/-- An integer as a reader meets it. -/
def Number.ofInt (n : Int) : Number := if n < 0 then .negative n else .natural n.natAbs

/-- A text does not go on with a number: no digit, no point and no exponent comes next. -/
def EndsNumber (s : List Char) : Prop :=
  ∀ c rest, s = c :: rest → isDigit c = false ∧ c ≠ '.' ∧ c ≠ 'e' ∧ c ≠ 'E'

theorem endsNumber_nil : EndsNumber [] := nofun

theorem endsNumber_cons {c : Char} {rest : List Char} (hdigit : isDigit c = false)
    (hpoint : c ≠ '.') (he : c ≠ 'e') (hE : c ≠ 'E') : EndsNumber (c :: rest) := by
  intro d rest' h
  obtain ⟨rfl, -⟩ := List.cons.inj h
  exact ⟨hdigit, hpoint, he, hE⟩

theorem isDigit_of_mem_toDigits {n : Nat} {c : Char} (h : c ∈ Nat.toDigits 10 n) :
    isDigit c = true :=
  Nat.isDigit_of_mem_toDigits (by decide) (by decide) h

theorem digitsValue_toDigits (n : Nat) : digitsValue 0 (Nat.toDigits 10 n) = n :=
  Nat.ofDigitChars_toDigits (by decide) (by decide)

/-- Only the number zero starts with the digit zero. -/
theorem eq_zero_of_head?_toDigits {n : Nat} (h : (Nat.toDigits 10 n).head? = some '0') : n = 0 := by
  induction n using Nat.strongRecOn with
  | ind n ih =>
    rw [Nat.toDigits_eq_if (by decide)] at h
    split at h
    · next hlt =>
      have hsmall : ∀ m < 10, [m.digitChar].head? = some '0' → m = 0 := by decide
      exact hsmall n hlt h
    · next hge =>
      obtain ⟨d, ds, hds⟩ :=
        List.exists_cons_of_ne_nil (Nat.toDigits_ne_nil (n := n / 10) (b := 10))
      rw [hds] at h
      have htenth : n / 10 = 0 := ih (n / 10) (by omega) (by rw [hds]; exact h)
      omega

/-- A significand never shrinks while digits are added to it. -/
theorem le_digitsValue (acc : Nat) (ds : List Char) : acc ≤ digitsValue acc ds := by
  induction ds generalizing acc with
  | nil => exact Nat.le_refl acc
  | cons d ds ih =>
    calc acc ≤ 10 * acc + digitValue d := by omega
      _ ≤ digitsValue acc (d :: ds) := ih _

/-- A significand that fits is taken as a whole. -/
theorem takeDigits_of_le {acc : Nat} {ds : List Char} (h : digitsValue acc ds ≤ maxSignificand) :
    takeDigits acc ds = (digitsValue acc ds, ds.length) := by
  induction ds generalizing acc with
  | nil => rfl
  | cons d ds ih =>
    have hnext : 10 * acc + digitValue d ≤ maxSignificand :=
      Nat.le_trans (le_digitsValue _ ds) h
    rw [takeDigits, if_neg (Nat.not_lt.2 hnext), ih h]
    rfl

/-- The digits of a number stop where the number ends. -/
theorem span_digits {ds rest : List Char} (hds : ∀ c ∈ ds, isDigit c = true)
    (hrest : EndsNumber rest) :
    (ds ++ rest).takeWhile isDigit = ds ∧ (ds ++ rest).dropWhile isDigit = rest := by
  rw [List.takeWhile_append_of_pos hds, List.dropWhile_append_of_pos hds]
  cases rest with
  | nil => simp
  | cons c rest => simp [(hrest c rest rfl).1]

/-- A row of digits is read as a literal without fraction and exponent. -/
theorem number_digits {ds rest : List Char} (negative : Bool) (hne : ds ≠ [])
    (hds : ∀ c ∈ ds, isDigit c = true) (hzero : ds.head? = some '0' → ds.length = 1)
    (hrest : EndsNumber rest) :
    number negative (ds ++ rest)
      = (.leaf ((Literal.value negative ⟨ds, [], true, false, []⟩).map .number) none,
        some rest) := by
  obtain ⟨htake, hdrop⟩ := span_digits hds hrest
  have hlead : (ds.head? = some '0' && ds.length > 1) = false := by
    by_cases h : ds.head? = some '0'
    · simp [hzero h]
    · simp [h]
  unfold number
  simp only [htake, hdrop, hne, hlead]
  cases rest with
  | nil => simp
  | cons c rest =>
    obtain ⟨-, hpoint, he, hE⟩ := hrest c rest rfl
    simp [hpoint, he, hE]

theorem literal_value_toDigits {n : Int} (hlow : -(twoTo 63 : Int) ≤ n)
    (hhigh : n < (twoTo 64 : Int)) :
    Literal.value (decide (n < 0)) ⟨Nat.toDigits 10 n.natAbs, [], true, false, []⟩
      = .ok (Number.ofInt n) := by
  have htwo : twoTo 64 = 2 * twoTo 63 := by decide
  have hfits : digitsValue 0 (Nat.toDigits 10 n.natAbs) ≤ maxSignificand := by
    rw [digitsValue_toDigits, maxSignificand]
    omega
  simp only [Literal.value, takeDigits_of_le hfits, digitsValue_toDigits, Number.ofInt]
  by_cases hneg : n < 0
  · have hzero : n.natAbs ≠ 0 := by omega
    have hbound : ¬n.natAbs > twoTo 63 := by omega
    have hback : -(n.natAbs : Int) = n := by omega
    simp only [Nat.sub_self, BEq.rfl, Bool.and_self, ↓reduceIte, hneg, decide_true, Bool.not_true,
      Bool.false_eq_true, hzero, decide_false, gt_iff_lt, hbound, Bool.or_self, hback]
  · simp [hneg]

/-- **A written integer is read back**, if it fits 64 bits. -/
theorem number_toDigits {n : Int} (hlow : -(twoTo 63 : Int) ≤ n) (hhigh : n < (twoTo 64 : Int))
    {rest : List Char} (hrest : EndsNumber rest) :
    number (decide (n < 0)) (Nat.toDigits 10 n.natAbs ++ rest)
      = (Tree.ofScalar (.number (.ofInt n)), some rest) := by
  have hlead : (Nat.toDigits 10 n.natAbs).head? = some '0' →
      (Nat.toDigits 10 n.natAbs).length = 1 := by
    intro h
    rw [eq_zero_of_head?_toDigits h]
    rfl
  rw [number_digits _ Nat.toDigits_ne_nil (fun _ => isDigit_of_mem_toDigits) hlead hrest,
    literal_value_toDigits hlow hhigh]
  rfl

end Passcode.Json
