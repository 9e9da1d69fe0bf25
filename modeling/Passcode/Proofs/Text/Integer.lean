import Passcode.Proofs.Json.Text
import Passcode.Text.Lowercase

/-!
# Integers that are written out

An integer is written out as its digits, without zeros in front, and with a minus sign if it is
negative. What is written out is read back, and is in lower case already.

## Main statements

* `lowercase_toString` — an integer that is written out is in lower case
* `signed?_toString` — an integer that is written out is read back
-/

namespace Passcode.Text

theorem toLower_of_isDigit {c : Char} (h : isDigit c = true) : c.toLower = c ∧ c.toNat < 0x80 := by
  rw [isDigit, Bool.and_eq_true, decide_eq_true_eq, decide_eq_true_eq] at h
  have hhigh : c.toNat ≤ 57 := h.2
  have hsmall : ¬c.val ≥ 'A'.val := by
    intro hge
    have hlow : 65 ≤ c.toNat := hge
    omega
  exact ⟨dif_neg fun h => hsmall h.1, by omega⟩

/-- A text of ASCII characters without capitals is its own lower-case form. -/
theorem lowerFrom_eq_self : ∀ {s : List Char} (before : List Char),
    (∀ c ∈ s, c.toLower = c ∧ c.toNat < 0x80) → lowerFrom before s = s
  | [], _, _ => rfl
  | c :: rest, before, h => by
    rw [List.forall_mem_cons] at h
    obtain ⟨⟨hlower, hascii⟩, hrest⟩ := h
    have hsigma : c ≠ 'Σ' := by
      rintro rfl
      exact absurd hascii (by decide)
    have hdotted : c ≠ 'İ' := by
      rintro rfl
      exact absurd hascii (by decide)
    rw [lowerFrom, lowerFrom_eq_self _ hrest]
    simp [hsigma, hdotted, hascii, hlower]

theorem natOfDigits?_toDigits (n : Nat) : natOfDigits? (Nat.toDigits 10 n) = some n := by
  have hdigits : Nat.toDigits 10 n ≠ [] ∧ (Nat.toDigits 10 n).all isDigit = true :=
    ⟨Nat.toDigits_ne_nil, List.all_eq_true.2 fun _ => Json.isDigit_of_mem_toDigits⟩
  rw [natOfDigits?, if_pos hdigits, Json.digitsValue_toDigits]

/-- An integer as it is written out: its digits, after a minus sign if it is negative. -/
theorem toList_toString (n : Int) : (toString n).toList
    = if n < 0 then '-' :: Nat.toDigits 10 n.natAbs else Nat.toDigits 10 n.natAbs := by
  cases n with
  | ofNat n =>
    rw [if_neg (by simp)]
    exact String.toList_ofList
  | negSucc n =>
    rw [if_pos (by omega)]
    change ("-" ++ Nat.repr (n + 1)).toList = _
    rw [String.toList_append]
    exact congrArg ('-' :: ·) String.toList_ofList

/-- An integer that is written out consists of digits, and perhaps a minus sign. -/
theorem isDigit_of_mem_toString {n : Int} {c : Char} (h : c ∈ (toString n).toList) :
    c = '-' ∨ isDigit c = true := by
  rw [toList_toString] at h
  split at h
  · exact (List.mem_cons.1 h).imp_right Json.isDigit_of_mem_toDigits
  · exact .inr (Json.isDigit_of_mem_toDigits h)

/-- An integer that is written out is read back. -/
theorem signed?_toString (n : Int) : signed? (toString n).toList = some n := by
  rw [toList_toString]
  split
  · rw [signed?, natOfDigits?_toDigits]
    show some (-(n.natAbs : Int)) = some n
    rw [show -(n.natAbs : Int) = n by omega]
  · obtain ⟨c, cs, hcs, hdigit⟩ := Json.exists_digit_toDigits n.natAbs
    have hminus : c ≠ '-' := by
      rintro rfl
      exact absurd hdigit (by decide)
    have hplus : c ≠ '+' := by
      rintro rfl
      exact absurd hdigit (by decide)
    have hread := natOfDigits?_toDigits n.natAbs
    rw [hcs] at hread ⊢
    rw [signed?.eq_2 _ (by simpa using hminus), unsigned?.eq_2 _ (by simpa using hplus), hread]
    show some (n.natAbs : Int) = some n
    rw [show (n.natAbs : Int) = n by omega]

/-- An integer that is written out has at least one digit. -/
theorem toString_int_ne_empty (n : Int) : toString n ≠ "" := by
  intro hempty
  have hread := signed?_toString n
  rw [hempty] at hread
  exact absurd hread nofun

/-- An integer that is written out is in lower case. -/
theorem lowercase_toString (n : Int) : lowercase (toString n) = toString n := by
  rw [lowercase, lowerFrom_eq_self [], String.ofList_toList]
  intro c hc
  rcases isDigit_of_mem_toString hc with rfl | hdigit
  · decide
  · exact toLower_of_isDigit hdigit

end Passcode.Text
