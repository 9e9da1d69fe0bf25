import Passcode.Text.Alphanumeric
import Passcode.Text.Blank

/-!
# Classes of characters

A class of characters is a table of ranges, so that classes are compared by their tables.

## Main statements

* `isAlphanum_of_isAlphanumeric` — the letters and numbers in ASCII
* `isBlank_eq_false_of_isAlphanumeric` — no letter or number is white space
-/

namespace Passcode.Text

theorem CharRanges.holds_eq_true_iff {table : CharRanges} {c : Char} : table.holds c = true
    ↔ ∃ r ∈ table, r.1 ≤ c.toNat ∧ c.toNat ≤ r.2 := by
  simp only [CharRanges.holds, List.any_eq_true, Bool.and_eq_true, decide_eq_true_eq]

/-- A character outside of every range is in none. -/
theorem CharRanges.holds_eq_false {table : CharRanges} {c : Char}
    (h : ∀ r ∈ table, c.toNat < r.1 ∨ r.2 < c.toNat) : table.holds c = false := by
  rw [← Bool.not_eq_true, holds_eq_true_iff]
  rintro ⟨r, hr, hlow, hhigh⟩
  have := h r hr
  omega

/-- The letters and numbers in ASCII are its letters and digits. -/
theorem isAlphanum_of_isAlphanumeric {c : Char} (h : isAlphanumeric c = true)
    (hascii : c.toNat < 0x80) : c.isAlphanum = true := by
  have htable : ∀ r ∈ alphanumericRanges,
      0x80 ≤ r.1 ∨ r = (0x30, 0x39) ∨ r = (0x41, 0x5a) ∨ r = (0x61, 0x7a) := by decide +kernel
  have hchars : ∀ n < 0x80, 0x30 ≤ n ∧ n ≤ 0x39 ∨ 0x41 ≤ n ∧ n ≤ 0x5a ∨ 0x61 ≤ n ∧ n ≤ 0x7a →
      (Char.ofNat n).isAlphanum = true := by decide +kernel
  obtain ⟨r, hr, hbounds⟩ := CharRanges.holds_eq_true_iff.1 h
  have hc := hchars c.toNat hascii
  rw [Char.ofNat_toNat] at hc
  rcases htable r hr with hr | rfl | rfl | rfl
  · exact absurd (Nat.le_trans hr hbounds.1) (Nat.not_le.2 hascii)
  · exact hc (.inl hbounds)
  · exact hc (.inr (.inl hbounds))
  · exact hc (.inr (.inr hbounds))

/-- No letter or number is white space. -/
theorem isBlank_eq_false_of_isAlphanumeric {c : Char} (h : isAlphanumeric c = true) :
    isBlank c = false := by
  have htables : ∀ r ∈ blankRanges, ∀ q ∈ alphanumericRanges, r.2 < q.1 ∨ q.2 < r.1 := by
    decide +kernel
  obtain ⟨q, hq, hbounds⟩ := CharRanges.holds_eq_true_iff.1 h
  refine CharRanges.holds_eq_false fun r hr => ?_
  have := htables r hr q hq
  omega

end Passcode.Text
