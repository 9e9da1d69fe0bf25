import Mathlib.Data.List.Basic
import Mathlib.Order.Bounds.Defs
import Mathlib.Order.Lattice.Nat

/-!
# Texts cut by byte offsets

A text can be cut at a byte offset only where a character starts or the text ends. The offset at
which a piece stands in a text is such an offset, and so is the one at which the piece ends.

## Main definitions

* `offsets` — the byte offsets at which a piece stands in a text
* `Finds` — the result of a search among them
* `IsFirstOffset`, `IsLastOffset` — the first and the last of them, if there is any
* `upTo?`, `from?` — the parts of a text before and after an offset, if it can be cut there

## Main statements

* `upTo?_append`, `from?_append` — what is cut where two texts meet
* `exists_append_of_size_le` — of two cuts of a text one is further on
* `exists_isFirstOffset`, `exists_isLastOffset` — a search has a result
-/

namespace Passcode.Text

/-! ## Cuts -/

/-- The part of a text before a byte offset. There is none if the offset is beyond the end or inside
a character. -/
def upTo? (s : String) (offset : Nat) : Option String :=
  if h : String.Pos.Raw.IsValid s ⟨offset⟩ then some (s.sliceTo (s.pos ⟨offset⟩ h)).copy else none

/-- The part of a text from a byte offset on. There is none if the offset is beyond the end or
inside a character. -/
def from? (s : String) (offset : Nat) : Option String :=
  if h : String.Pos.Raw.IsValid s ⟨offset⟩ then some (s.sliceFrom (s.pos ⟨offset⟩ h)).copy else none

theorem isValid_utf8ByteSize (a b : String) :
    String.Pos.Raw.IsValid (a ++ b) ⟨a.utf8ByteSize⟩ :=
  String.Pos.Raw.isValid_iff_exists_append.2 ⟨a, b, rfl, rfl⟩

theorem upTo?_append (a b : String) : upTo? (a ++ b) a.utf8ByteSize = some a := by
  rw [upTo?, dif_pos (isValid_utf8ByteSize a b)]
  exact congrArg some String.Pos.splits_append_rawEndPos.copy_sliceTo_eq

theorem from?_append (a b : String) : from? (a ++ b) a.utf8ByteSize = some b := by
  rw [from?, dif_pos (isValid_utf8ByteSize a b)]
  exact congrArg some String.Pos.splits_append_rawEndPos.copy_sliceFrom_eq

/-- Of two cuts of one text, the one with more bytes before it is further on. -/
theorem exists_append_of_size_le {a b x y : String} (h : a ++ b = x ++ y)
    (hsize : a.utf8ByteSize ≤ x.utf8ByteSize) : ∃ z, x = a ++ z := by
  have hlists := congrArg String.toList h
  rw [String.toList_append, String.toList_append] at hlists
  obtain ⟨z, hx, -⟩ | ⟨z, ha, -⟩ := List.append_eq_append_iff.1 hlists
  · exact ⟨String.ofList z, by rw [← String.toList_inj, String.toList_append, hx,
      String.toList_ofList]⟩
  · obtain rfl : a = x ++ String.ofList z := by
      rw [← String.toList_inj, String.toList_append, ha, String.toList_ofList]
    rw [String.utf8ByteSize_append] at hsize
    obtain hz : String.ofList z = "" := String.utf8ByteSize_eq_zero_iff.1 (by omega)
    exact ⟨"", by rw [hz, String.append_empty, String.append_empty]⟩

/-! ## Searches -/

/-- The byte offsets at which a piece stands in a text. -/
def offsets (piece s : String) : Set Nat :=
  {n | ∃ before after, s = before ++ piece ++ after ∧ before.utf8ByteSize = n}

/-- The result of a search for the extreme one among some places. -/
def Finds (extreme : Set Nat → Nat → Prop) (places : Set Nat) : Option Nat → Prop
  | none => places = ∅
  | some n => extreme places n

/-- The result of a search for a piece from the left. -/
def IsFirstOffset (piece s : String) : Option Nat → Prop := Finds IsLeast (offsets piece s)

/-- The result of a search for a piece from the right. -/
def IsLastOffset (piece s : String) : Option Nat → Prop := Finds IsGreatest (offsets piece s)

/-- A search has one result. -/
theorem Finds.unique {extreme : Set Nat → Nat → Prop} {places : Set Nat}
    (hmem : ∀ n, extreme places n → n ∈ places)
    (hunique : ∀ n k, extreme places n → extreme places k → n = k) {n? k? : Option Nat}
    (hn : Finds extreme places n?) (hk : Finds extreme places k?) : n? = k? := by
  cases n? with
  | none =>
    cases k? with
    | none => rfl
    | some k => exact absurd (hmem k hk) (Set.eq_empty_iff_forall_notMem.1 hn k)
  | some n =>
    cases k? with
    | none => exact absurd (hmem n hn) (Set.eq_empty_iff_forall_notMem.1 hk n)
    | some k => exact congrArg some (hunique n k hn hk)

theorem utf8ByteSize_mem_offsets (before piece after : String) :
    before.utf8ByteSize ∈ offsets piece (before ++ piece ++ after) :=
  ⟨before, after, rfl, rfl⟩

theorem bddAbove_offsets (piece s : String) : BddAbove (offsets piece s) := by
  refine ⟨s.utf8ByteSize, ?_⟩
  rintro _ ⟨before, after, rfl, rfl⟩
  rw [String.utf8ByteSize_append, String.utf8ByteSize_append]
  omega

theorem exists_isFirstOffset (piece s : String) : ∃ n?, IsFirstOffset piece s n? := by
  rcases (offsets piece s).eq_empty_or_nonempty with hempty | hsome
  · exact ⟨none, hempty⟩
  · exact ⟨some (sInf (offsets piece s)), Nat.sInf_mem hsome, fun _ hn => Nat.sInf_le hn⟩

theorem exists_isLastOffset (piece s : String) : ∃ n?, IsLastOffset piece s n? := by
  rcases (offsets piece s).eq_empty_or_nonempty with hempty | hsome
  · exact ⟨none, hempty⟩
  · have hbounded := bddAbove_offsets piece s
    exact ⟨some (sSup (offsets piece s)), Nat.sSup_mem hsome hbounded,
      fun _ hn => le_csSup hbounded hn⟩

theorem IsFirstOffset.unique {piece s : String} {n? k? : Option Nat}
    (hn : IsFirstOffset piece s n?) (hk : IsFirstOffset piece s k?) : n? = k? :=
  Finds.unique (fun _ h => h.1) (fun _ _ => IsLeast.unique) hn hk

theorem IsLastOffset.unique {piece s : String} {n? k? : Option Nat}
    (hn : IsLastOffset piece s n?) (hk : IsLastOffset piece s k?) : n? = k? :=
  Finds.unique (fun _ h => h.1) (fun _ _ => IsGreatest.unique) hn hk

/-- A piece of one character stands no further on than where that character does not follow. -/
theorem isLastOffset_of_not_mem {c : Char} {after : String} (h : c ∉ after.toList)
    (before : String) : IsLastOffset (String.singleton c)
      (before ++ String.singleton c ++ after) (some before.utf8ByteSize) := by
  refine ⟨utf8ByteSize_mem_offsets before _ after, ?_⟩
  rintro _ ⟨x, y, hs, rfl⟩
  by_contra hlt
  rw [String.append_assoc, String.append_assoc] at hs
  obtain ⟨z, rfl⟩ := exists_append_of_size_le hs (by omega)
  rw [String.append_assoc, String.append_right_inj] at hs
  have hlists := congrArg String.toList hs
  simp only [String.toList_append, String.toList_singleton, List.singleton_append] at hlists
  cases hz : z.toList with
  | nil =>
    obtain rfl : z = "" := String.toList_eq_nil_iff.1 hz
    simp at hlt
  | cons d rest =>
    rw [hz] at hlists
    obtain ⟨-, hafter⟩ := List.cons.inj hlists
    exact h (hafter ▸ List.mem_append_right rest List.mem_cons_self)

end Passcode.Text
