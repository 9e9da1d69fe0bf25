import Mathlib.Data.List.Basic
import Passcode.Text.Split

/-!
# Where a text is cut

A cut at the last place of a character is the one with no such character after it, and the first of
the pieces between marks goes to the first mark. A cut at the first place of a longer mark is the
one before which the mark is never complete; whatever follows the mark plays no part in this.

## Main definitions

* `BeforeFirst` — followed by a mark, a text completes the mark there for the first time

## Main statements

* `splitAtLast_eq_some_iff`, `exists_last` — cuts at the last place
* `exists_between` — the place of a character that neither end of a text has
* `splitOn_append`, `splitOn_of_not_mem` — the pieces between marks
* `splitAtText_eq_some_iff`, `splitAtText_eq_none_iff` — cuts at the first place
* `BeforeFirst.exists_append` — every other place is further on
-/

namespace Passcode.Text

variable {mark s a b : List Char}

theorem splitAtLast_append {c : Char} (h : c ∉ b) (a : List Char) :
    splitAtLast c (a ++ c :: b) = some (a, b) := by
  induction a with
  | nil => simp [splitAtLast, splitAtLast_eq_none.2 h]
  | cons d a ih => simp [splitAtLast, ih]

theorem splitOn_ne_nil (c : Char) (s : List Char) : splitOn c s ≠ [] := by
  cases s with
  | nil => exact List.cons_ne_nil _ _
  | cons d s =>
    rw [splitOn]
    split
    · exact List.cons_ne_nil _ _
    · split <;> exact List.cons_ne_nil _ _

/-- Without the mark a text is one piece. -/
theorem splitOn_of_not_mem {c : Char} (h : c ∉ a) : splitOn c a = [a] := by
  induction a with
  | nil => rfl
  | cons d a ih =>
    rw [List.mem_cons, not_or] at h
    simp only [splitOn, ih h.2, if_neg (Ne.symm h.1)]

/-- The first piece goes to the first mark. -/
theorem splitOn_append {c : Char} (h : c ∉ a) (b : List Char) :
    splitOn c (a ++ c :: b) = a :: splitOn c b := by
  induction a with
  | nil =>
    rw [List.nil_append, splitOn]
    cases hb : splitOn c b with
    | nil => exact absurd hb (splitOn_ne_nil c b)
    | cons piece pieces => simp only [if_pos]
  | cons d a ih =>
    rw [List.mem_cons, not_or] at h
    rw [List.cons_append, splitOn, ih h.2]
    simp only [if_neg (Ne.symm h.1)]

/-- A character that is neither in the first nor in the last part of a text is in between. -/
theorem exists_between {c : Char} {x y q : List Char} (ha : c ∉ a) (hb : c ∉ b)
    (h : a ++ (q ++ b) = x ++ c :: y) : ∃ q₁ q₂, q = q₁ ++ c :: q₂ ∧ x = a ++ q₁ ∧ y = q₂ ++ b := by
  obtain ⟨q₁, hx, h⟩ : ∃ q₁, x = a ++ q₁ ∧ q ++ b = q₁ ++ c :: y := by
    obtain ⟨z, hx, hz⟩ | ⟨z, rfl, hz⟩ := List.append_eq_append_iff.1 h
    · exact ⟨z, hx, hz⟩
    · cases z with
      | nil => exact ⟨[], by simp, by simpa using hz.symm⟩
      | cons d z =>
        obtain ⟨rfl, -⟩ := List.cons.inj hz
        exact absurd (List.mem_append_right x List.mem_cons_self) ha
  obtain ⟨z, -, hz⟩ | ⟨z, hq, hz⟩ := List.append_eq_append_iff.1 h
  · rw [hz] at hb
    exact absurd (List.mem_append_right z List.mem_cons_self) hb
  · cases z with
    | nil =>
      rw [List.nil_append] at hz
      rw [← hz] at hb
      exact absurd List.mem_cons_self hb
    | cons d z =>
      obtain ⟨rfl, rfl⟩ := List.cons.inj hz
      exact ⟨q₁, z, hq, hx, rfl⟩

/-- **A cut at the last place of a character** has no such character after it. -/
theorem splitAtLast_eq_some_iff {c : Char} :
    splitAtLast c s = some (a, b) ↔ s = a ++ c :: b ∧ c ∉ b := by
  constructor
  · exact eq_of_splitAtLast
  · rintro ⟨rfl, h⟩
    exact splitAtLast_append h a

/-- A text with a character can be cut at the last place of it. -/
theorem exists_last {c : Char} {s : String} (h : c ∈ s.toList) :
    ∃ a b, s = a ++ String.singleton c ++ b ∧ c ∉ b.toList := by
  cases hcut : splitAtLast c s.toList with
  | none => exact absurd h (splitAtLast_eq_none.1 hcut)
  | some cut =>
    obtain ⟨a, b⟩ := cut
    obtain ⟨hs, hb⟩ := splitAtLast_eq_some_iff.1 hcut
    refine ⟨String.ofList a, String.ofList b, ?_, by rwa [String.toList_ofList]⟩
    rw [← String.toList_inj, hs]
    simp

/-- Followed by a mark, the text completes the mark there for the first time. -/
def BeforeFirst (mark a : List Char) : Prop := ∀ x y, a ++ mark = x ++ mark ++ y → y = []

theorem beforeFirst_nil (mark : List Char) : BeforeFirst mark [] := by
  intro x y h
  have hlength := congrArg List.length h
  simp only [List.nil_append, List.length_append] at hlength
  exact List.eq_nil_of_length_eq_zero (by omega)

/-- What starts with a character that the text lacks is not complete before the text ends. -/
theorem beforeFirst_of_not_mem {c : Char} (h : c ∉ a) (rest : List Char) :
    BeforeFirst (c :: rest) a := by
  intro x y hxy
  rw [List.append_assoc] at hxy
  obtain ⟨z, rfl, hz⟩ | ⟨z, rfl, hz⟩ := List.append_eq_append_iff.1 hxy
  · rw [← List.append_assoc] at hz
    exact beforeFirst_nil _ z y hz
  · cases z with
    | nil => exact beforeFirst_nil _ [] y hz.symm
    | cons d z =>
      obtain ⟨rfl, -⟩ := List.cons.inj hz
      exact absurd (List.mem_append_right x List.mem_cons_self) h

namespace BeforeFirst

theorem tail {c : Char} (h : BeforeFirst mark (c :: a)) : BeforeFirst mark a := fun x y hxy =>
  h (c :: x) y (congrArg (c :: ·) hxy)

/-- A text that is not empty does not complete the mark at its own start. -/
theorem not_isPrefix {c : Char} (h : BeforeFirst mark (c :: a)) (b : List Char) :
    ¬mark <+: c :: (a ++ mark ++ b) := by
  intro hprefix
  have hle : mark.length ≤ (c :: a ++ mark).length := by
    rw [List.length_append]
    exact Nat.le_add_left _ _
  obtain ⟨y, hy⟩ := List.prefix_of_prefix_length_le hprefix (List.prefix_append _ b) hle
  obtain rfl : y = [] := h [] y hy.symm
  have hlength := congrArg List.length hy
  simp only [List.append_nil, List.length_append, List.length_cons] at hlength
  omega

/-- Every other place of the mark is further on. -/
theorem exists_append (h : BeforeFirst mark a) {x y : List Char}
    (hxy : a ++ mark ++ b = x ++ mark ++ y) : ∃ z, x = a ++ z := by
  rw [List.append_assoc, List.append_assoc] at hxy
  obtain ⟨z, hx, -⟩ | ⟨z, rfl, hz⟩ := List.append_eq_append_iff.1 hxy
  · exact ⟨z, hx⟩
  · -- a place before the end of `a` would complete the mark too early
    have hprefix : mark <+: z ++ mark := by
      refine List.prefix_of_prefix_length_le ⟨y, hz⟩ ⟨b, List.append_assoc _ _ _⟩ ?_
      rw [List.length_append]
      exact Nat.le_add_left _ _
    obtain ⟨w, hw⟩ := hprefix
    obtain rfl : w = [] := h x w (by rw [List.append_assoc, List.append_assoc, hw])
    have hlength := congrArg List.length hw
    simp only [List.append_nil, List.length_append] at hlength
    obtain rfl : z = [] := List.eq_nil_of_length_eq_zero (by omega)
    exact ⟨[], by simp⟩

end BeforeFirst

theorem splitAtText_append (hmark : mark ≠ []) (h : BeforeFirst mark a) (b : List Char) :
    splitAtText mark (a ++ mark ++ b) = some (a, b) := by
  induction a with
  | nil =>
    obtain ⟨c, rest, rfl⟩ := List.exists_cons_of_ne_nil hmark
    have hprefix : (c :: rest).isPrefixOf (c :: (rest ++ b)) = true :=
      List.isPrefixOf_iff_prefix.2 ⟨b, rfl⟩
    simp [splitAtText, hprefix]
  | cons c a ih =>
    have hprefix : mark.isPrefixOf (c :: (a ++ mark ++ b)) = false := by
      simpa [← List.isPrefixOf_iff_prefix] using h.not_isPrefix b
    simp only [List.cons_append, splitAtText, hprefix, ih h.tail]
    rfl

/-- **A cut at the first place of a mark** has it complete for the first time. -/
theorem splitAtText_eq_some_iff (hmark : mark ≠ []) :
    splitAtText mark s = some (a, b) ↔ s = a ++ mark ++ b ∧ BeforeFirst mark a := by
  constructor
  · intro h
    induction s generalizing a b with
    | nil => simp [splitAtText, hmark] at h
    | cons c rest ih =>
      rw [splitAtText] at h
      split at h
      · next hprefix =>
        obtain ⟨rfl, rfl⟩ := Prod.mk.inj (Option.some.inj h)
        obtain ⟨y, hy⟩ := List.isPrefixOf_iff_prefix.1 hprefix
        rw [← hy]
        exact ⟨by simp, beforeFirst_nil mark⟩
      · next hprefix =>
        obtain ⟨⟨a', b'⟩, hsplit, hab⟩ := Option.map_eq_some_iff.1 h
        obtain ⟨rfl, rfl⟩ := Prod.mk.inj hab
        obtain ⟨rfl, hfirst⟩ := ih hsplit
        refine ⟨rfl, fun x y hxy => ?_⟩
        cases x with
        | nil =>
          refine absurd (List.isPrefixOf_iff_prefix.2 ⟨y ++ b', ?_⟩) hprefix
          rw [← List.append_assoc]
          exact congrArg (· ++ b') hxy.symm
        | cons d x => exact hfirst x y (List.cons.inj hxy).2
  · rintro ⟨rfl, h⟩
    exact splitAtText_append hmark h b

theorem splitAtText_eq_none_iff (hmark : mark ≠ []) :
    splitAtText mark s = none ↔ ∀ x y, s ≠ x ++ mark ++ y := by
  constructor
  · intro h x y hs
    induction x generalizing s with
    | nil =>
      subst hs
      rw [splitAtText_append hmark (beforeFirst_nil mark)] at h
      cases h
    | cons c x ih =>
      subst hs
      rw [List.cons_append, List.cons_append, splitAtText] at h
      split at h
      · cases h
      · exact ih (Option.map_eq_none_iff.1 h) rfl
  · intro h
    cases hs : splitAtText mark s with
    | none => rfl
    | some p => exact absurd ((splitAtText_eq_some_iff hmark).1 hs).1 (h p.1 p.2)

end Passcode.Text
