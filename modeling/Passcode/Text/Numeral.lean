import Passcode.Number.Power

/-!
# Whole numbers as text

How texts are read as whole numbers: ASCII digits only, at least one, no blanks and no
separators, with an optional sign. A plus sign is always allowed, a minus sign only where negative
numbers are, so `-0` is no unsigned number.
-/

namespace Passcode.Text

/-- Whether a character is one of the ten ASCII digits. -/
def isDigit (c : Char) : Bool := '0' ≤ c && c ≤ '9'

/-- The value of a digit. -/
def digitValue (c : Char) : Nat := c.toNat - '0'.toNat

/-- The value of a row of digits read after `acc`. -/
def digitsValue (acc : Nat) (ds : List Char) : Nat :=
  ds.foldl (fun n d => 10 * n + digitValue d) acc

/-- Read a non-empty row of digits. -/
def natOfDigits? (s : List Char) : Option Nat :=
  if s ≠ [] ∧ s.all isDigit then some (digitsValue 0 s) else none

/-- The value of a digit, of which there are sixteen; letters may be of either case. -/
def hexDigit? (c : Char) : Option Nat :=
  if isDigit c then some (digitValue c)
  else if 'a' ≤ c && c ≤ 'f' then some (c.toNat - 'a'.toNat + 10)
  else if 'A' ≤ c && c ≤ 'F' then some (c.toNat - 'A'.toNat + 10)
  else none

/-- The value of a digit in a base of at most sixteen. -/
def digitIn? (base : Nat) (c : Char) : Option Nat := (hexDigit? c).filter (· < base)

/-- Read a non-empty row of digits in a base of at most sixteen. -/
def natInBase? (base : Nat) (s : List Char) : Option Nat :=
  if s = [] then none
  else s.foldlM (fun n c => (digitIn? base c).map fun d => base * n + d) 0

/-- Read a number without sign, or with a plus sign. -/
def unsigned? (s : List Char) : Option Nat :=
  match s with
  | '+' :: rest => natOfDigits? rest
  | s => natOfDigits? s

/-- Read a number with or without sign. -/
def signed? (s : List Char) : Option Int :=
  match s with
  | '-' :: rest => (natOfDigits? rest).map fun n => -(n : Int)
  | s => (unsigned? s).map Int.ofNat

/-- Read an unsigned number below `bound`. -/
def readBelow (bound : Nat) (s : String) : Option Nat :=
  (unsigned? s.toList).filter (· < bound)

/-- Read a signed number of 64 bits. -/
def readInt64 (s : String) : Option Int64 :=
  ((signed? s.toList).filter (fitsSigned 64)).map Int64.ofInt

end Passcode.Text
