import Passcode.Text.Blank

/-!
# What is left of a trimmed text

A trimmed text has no white space at its ends, and a text without white space at its ends is left
when white space is put around it.

## Main definitions

* `IsTrimmed` — there is no white space at either end of a text

## Main statements

* `exists_trimmed` — a text is its trimmed text with white space around it
* `trimmed_append` — white space around a text is trimmed off
-/

namespace Passcode.Text

/-- There is no white space at either end of a text. -/
structure IsTrimmed (s : List Char) : Prop where
  head : ∀ c ∈ s.head?, isBlank c = false
  last : ∀ c ∈ s.getLast?, isBlank c = false

theorem isTrimmed_iff {s : List Char} : IsTrimmed s
    ↔ s.head?.all (!isBlank ·) = true ∧ s.getLast?.all (!isBlank ·) = true := by
  simp only [Option.all_eq_true, Bool.not_eq_true']
  exact ⟨fun h => ⟨h.head, h.last⟩, fun h => ⟨h.1, h.2⟩⟩

instance (s : List Char) : Decidable (IsTrimmed s) := decidable_of_iff' _ isTrimmed_iff

/-- What a text starts with is its first character. -/
theorem forall_head?_cons {p : Char → Bool} {c : Char} (h : p c = false) (s : List Char) :
    ∀ d ∈ (c :: s).head?, p d = false := fun d hd => by
  rwa [← Option.some.inj hd]

theorem dropWhile_append_of_all {p : Char → Bool} {w : List Char} (hw : ∀ c ∈ w, p c = true)
    {s : List Char} (hs : ∀ c ∈ s.head?, p c = false) : (w ++ s).dropWhile p = s := by
  rw [List.dropWhile_append_of_pos hw]
  cases s with
  | nil => rfl
  | cons c s => exact List.dropWhile_cons_of_neg (by simp [hs c rfl])

theorem head?_dropWhile {p : Char → Bool} {s : List Char} :
    ∀ c ∈ (s.dropWhile p).head?, p c = false := by
  intro c hc
  have hnot := List.head?_dropWhile_not p s
  rwa [Option.mem_def.1 hc] at hnot

theorem exists_dropWhile (p : Char → Bool) (s : List Char) :
    ∃ w, (∀ c ∈ w, p c = true) ∧ s = w ++ s.dropWhile p :=
  ⟨s.takeWhile p, fun _ => List.all_eq_true.1 List.all_takeWhile _,
    List.takeWhile_append_dropWhile.symm⟩

/-- White space around a text is trimmed off. -/
theorem trimmed_append {s w w' : List Char} (hs : IsTrimmed s) (hne : s ≠ [])
    (hw : ∀ c ∈ w, isBlank c = true) (hw' : ∀ c ∈ w', isBlank c = true) :
    trimEnd (trimStart (w ++ s ++ w')) = s := by
  have hstart : trimStart (w ++ s ++ w') = s ++ w' := by
    obtain ⟨d, u, rfl⟩ := List.exists_cons_of_ne_nil hne
    rw [trimStart, List.append_assoc]
    exact dropWhile_append_of_all hw hs.head
  rw [hstart, trimEnd, List.reverse_append, dropWhile_append_of_all (by simpa using hw'),
    List.reverse_reverse]
  simpa using hs.last

/-- Without white space at its ends a text is left as it is. -/
theorem IsTrimmed.eq {s : List Char} (hs : IsTrimmed s) (hne : s ≠ []) :
    trimEnd (trimStart s) = s := by
  have hall := trimmed_append hs hne (List.forall_mem_nil _) (List.forall_mem_nil _)
  rwa [List.append_nil] at hall

/-- A text is what trimming leaves of it, with white space around it. -/
theorem exists_trimmed (s : List Char) : ∃ w w', (∀ c ∈ w, isBlank c = true) ∧
    (∀ c ∈ w', isBlank c = true) ∧ s = w ++ trimEnd (trimStart s) ++ w' := by
  obtain ⟨w, hw, hs⟩ := exists_dropWhile isBlank s
  obtain ⟨w', hw', ht⟩ := exists_dropWhile isBlank (trimStart s).reverse
  refine ⟨w, w'.reverse, hw, by simpa using hw', ?_⟩
  rw [trimEnd, List.append_assoc, ← List.reverse_append, ← ht, List.reverse_reverse]
  exact hs

/-- What trimming leaves has no white space at its ends. -/
theorem isTrimmed_trimmed (s : List Char) : IsTrimmed (trimEnd (trimStart s)) := by
  constructor
  · intro c hc
    obtain ⟨w', -, ht⟩ := exists_dropWhile isBlank (trimStart s).reverse
    refine head?_dropWhile (s := s) c ?_
    have hstart : trimStart s = trimEnd (trimStart s) ++ w'.reverse := by
      rw [trimEnd, ← List.reverse_append, ← ht, List.reverse_reverse]
    rw [← trimStart, hstart, List.head?_append, Option.mem_def.1 hc]
    rfl
  · intro c hc
    rw [trimEnd, List.getLast?_reverse] at hc
    exact head?_dropWhile c hc

end Passcode.Text
