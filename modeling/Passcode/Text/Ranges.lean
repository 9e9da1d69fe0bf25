/-!
# Sets of characters given by ranges of code points

A character class of the Unicode standard is data: a list of closed ranges. `CharRanges.holds`
is membership, and the class modules (`Alphanumeric`, `Printable`, `Blank`, `Lowercase`) only
add their table and a one-line test.
-/

namespace Passcode.Text

/-- A set of characters, as closed ranges of code points. -/
abbrev CharRanges := List (Nat × Nat)

/-- Whether the code point of `c` lies in one of the ranges. -/
def CharRanges.holds (table : CharRanges) (c : Char) : Bool :=
  table.any fun range => range.1 ≤ c.toNat && c.toNat ≤ range.2

@[simp] theorem CharRanges.holds_nil (c : Char) : CharRanges.holds [] c = false := rfl

theorem CharRanges.holds_cons (lo hi : Nat) (table : CharRanges) (c : Char) :
    CharRanges.holds ((lo, hi) :: table) c
      = ((decide (lo ≤ c.toNat) && decide (c.toNat ≤ hi)) || CharRanges.holds table c) := rfl

end Passcode.Text
