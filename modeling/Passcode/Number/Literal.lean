import Passcode.Number.Binary64
import Passcode.Text.Numeral

/-!
# Texts that name a number with a fraction

A decimal literal has digits on at least one side of its point and may carry an exponent; a sign
may stand before it. The words for infinity and for what is not a number count as well, in any
case of their letters.
-/

namespace Passcode.Number

open Passcode.Text (isDigit digitsValue)

/-- A decimal literal without its sign. -/
structure DecimalLiteral where
  whole : List Char
  fraction : List Char
  exponent : Int
deriving Repr

namespace DecimalLiteral

/-- The exponent after the letter `e`. -/
def exponent? (s : List Char) : Option Int :=
  let (negative, digits) := match s with
    | '-' :: rest => (true, rest)
    | '+' :: rest => (false, rest)
    | rest => (false, rest)
  (Text.natOfDigits? digits).map fun n => if negative then -(n : Int) else n

/-- The literal that is exactly the text `s`. -/
def ofChars? (s : List Char) : Option DecimalLiteral :=
  let whole := s.takeWhile isDigit
  let rest := s.dropWhile isDigit
  let (fraction, rest) := match rest with
    | '.' :: more => (more.takeWhile isDigit, more.dropWhile isDigit)
    | _ => ([], rest)
  if whole = [] ∧ fraction = [] then none
  else
    match rest with
    | [] => some ⟨whole, fraction, 0⟩
    | 'e' :: more | 'E' :: more => (exponent? more).map (⟨whole, fraction, ·⟩)
    | _ => none

/-- The number nearest to a literal. -/
def value (negative : Bool) (l : DecimalLiteral) : Binary64 :=
  let digits := l.whole ++ l.fraction
  Binary64.ofDecimal negative (digitsValue 0 digits) digits.length (l.exponent - l.fraction.length)

end DecimalLiteral

/-- The number that a text names. -/
def Binary64.ofText? (s : List Char) : Option Binary64 :=
  let (negative, body) := match s with
    | '-' :: rest => (true, rest)
    | '+' :: rest => (false, rest)
    | rest => (false, rest)
  let lower := String.ofList (body.map Char.toLower)
  if lower = "inf" ∨ lower = "infinity" then some (.infinite negative)
  else if lower = "nan" then some .nan
  else (DecimalLiteral.ofChars? body).map (DecimalLiteral.value negative)

end Passcode.Number
