/-!
# Cutting a text at a mark

The first and the last place of a mark in a text. A cut that is found loses only the mark
(`eq_of_splitAtFirst`, `eq_of_splitAtLast`).
-/

namespace Passcode.Text

/-- The text before and after the first `mark`. -/
def splitAtFirst (mark : Char) : List Char → Option (List Char × List Char)
  | [] => none
  | c :: rest =>
    if c = mark then some ([], rest)
    else (splitAtFirst mark rest).map fun (before, after) => (c :: before, after)

/-- The text before and after the last `mark`. -/
def splitAtLast (mark : Char) : List Char → Option (List Char × List Char)
  | [] => none
  | c :: rest =>
    match splitAtLast mark rest with
    | some (before, after) => some (c :: before, after)
    | none => if c = mark then some ([], rest) else none

/-- The text before and after the first occurrence of `mark`. -/
def splitAtText (mark : List Char) : List Char → Option (List Char × List Char)
  | [] => if mark = [] then some ([], []) else none
  | c :: rest =>
    if mark.isPrefixOf (c :: rest) then some ([], (c :: rest).drop mark.length)
    else (splitAtText mark rest).map fun (before, after) => (c :: before, after)

/-- The pieces of a text between marks. -/
def splitOn (mark : Char) : List Char → List (List Char)
  | [] => [[]]
  | c :: rest =>
    match splitOn mark rest with
    | [] => [[c]]
    | piece :: pieces => if c = mark then [] :: piece :: pieces else (c :: piece) :: pieces

theorem eq_of_splitAtFirst {mark : Char} {s a b : List Char}
    (h : splitAtFirst mark s = some (a, b)) : s = a ++ mark :: b := by
  induction s generalizing a b with
  | nil => simp [splitAtFirst] at h
  | cons c rest ih =>
    by_cases hc : c = mark
    · simp_all [splitAtFirst]
    · simp only [splitAtFirst, hc, if_false, Option.map_eq_some_iff, Prod.mk.injEq,
        Prod.exists] at h
      obtain ⟨x, y, hxy, rfl, rfl⟩ := h
      simp [ih hxy]

theorem splitAtFirst_eq_none {mark : Char} {s : List Char} :
    splitAtFirst mark s = none ↔ mark ∉ s := by
  induction s with
  | nil => simp [splitAtFirst]
  | cons c rest ih =>
    by_cases hc : c = mark
    · simp [splitAtFirst, hc]
    · simp [splitAtFirst, hc, ih, Ne.symm hc]

theorem splitAtLast_eq_none {mark : Char} {s : List Char} :
    splitAtLast mark s = none ↔ mark ∉ s := by
  induction s with
  | nil => simp [splitAtLast]
  | cons c rest ih =>
    cases h : splitAtLast mark rest with
    | none =>
      have hr := ih.1 h
      by_cases hc : c = mark
      · simp [splitAtLast, h, hc]
      · simp [splitAtLast, h, hc, hr, Ne.symm hc]
    | some p =>
      have hm : mark ∈ rest := Decidable.byContradiction fun hn => by simp [ih.2 hn] at h
      simp [splitAtLast, h, hm]

theorem eq_of_splitAtLast {mark : Char} {s a b : List Char}
    (h : splitAtLast mark s = some (a, b)) : s = a ++ mark :: b ∧ mark ∉ b := by
  induction s generalizing a b with
  | nil => simp [splitAtLast] at h
  | cons c rest ih =>
    cases hr : splitAtLast mark rest with
    | none =>
      by_cases hc : c = mark
      · simp only [splitAtLast, hr, hc, if_true, Option.some.injEq, Prod.mk.injEq] at h
        obtain ⟨rfl, rfl⟩ := h
        exact ⟨by simp [hc], splitAtLast_eq_none.1 hr⟩
      · simp [splitAtLast, hr, hc] at h
    | some p =>
      obtain ⟨x, y⟩ := p
      simp only [splitAtLast, hr, Option.some.injEq, Prod.mk.injEq] at h
      obtain ⟨rfl, rfl⟩ := h
      obtain ⟨h₁, h₂⟩ := ih hr
      exact ⟨by simp [h₁], h₂⟩

end Passcode.Text
