import Passcode.Text.Numeral

/-!
# Dates and times

A date, a time, or both with an offset, as a TOML text writes them. Reading one gives its written
form back in one spelling: a capital `T` between date and time, a capital `Z`, and no zeros at the
end of a fraction of a second.
-/

namespace Passcode.Toml

open Passcode.Text (isDigit digitValue)

/-- A number of two digits. -/
def twoDigits (s : List Char) : Option (Nat × List Char) :=
  match s with
  | a :: b :: rest =>
    if isDigit a && isDigit b then some (10 * digitValue a + digitValue b, rest) else none
  | _ => none

/-- The text after one character. -/
def skipMark (c : Char) : List Char → Option (List Char)
  | d :: rest => if c = d then some rest else none
  | [] => none

/-- A number with at least `width` digits. -/
def padded (width n : Nat) : List Char :=
  let ds := Nat.toDigits 10 n
  List.replicate (width - ds.length) '0' ++ ds

/-- A date at the start of a text, as text, and what follows it. -/
def takeDate (s : List Char) : Option (List Char × List Char) := do
  let (century, s) ← twoDigits s
  let (year, s) ← twoDigits s
  let (month, s) ← twoDigits (← skipMark '-' s)
  let (day, s) ← twoDigits (← skipMark '-' s)
  guard (1 ≤ month ∧ month ≤ 12 ∧ 1 ≤ day ∧ day ≤ 31)
  return (padded 2 century ++ padded 2 year ++ '-' :: padded 2 month ++ '-' :: padded 2 day, s)

/-- The fraction of a second in nine digits, without the zeros at its end. -/
def fractionText (ds : List Char) : List Char :=
  let kept := ((ds.take 9).reverse.dropWhile (· == '0')).reverse
  if kept = [] then [] else '.' :: kept

/-- A time at the start of a text, as text, and what follows it. -/
def takeTime (s : List Char) : Option (List Char × List Char) := do
  let (hour, s) ← twoDigits s
  let (minute, s) ← twoDigits (← skipMark ':' s)
  let (second, s) ← twoDigits (← skipMark ':' s)
  guard (hour ≤ 24 ∧ minute ≤ 59 ∧ second ≤ 59)
  let text := padded 2 hour ++ ':' :: padded 2 minute ++ ':' :: padded 2 second
  match s with
  | '.' :: rest =>
    let ds := rest.takeWhile isDigit
    guard (ds ≠ [])
    return (text ++ fractionText ds, rest.dropWhile isDigit)
  | s => return (text, s)

/-- An offset that is the rest of a text, as text. -/
def offset? (s : List Char) : Option (List Char) :=
  match s with
  | [] => some []
  | ['Z'] | ['z'] => some ['Z']
  | sign :: rest => do
    guard (sign = '+' ∨ sign = '-')
    let (hours, rest) ← twoDigits rest
    let (minutes, rest) ← twoDigits (← skipMark ':' rest)
    guard (rest = [])
    let sign := if hours = 0 then '+' else sign
    return sign :: padded 2 hours ++ ':' :: padded 2 minutes

/-- The written form of the date or time that a text names. -/
def dateText? (s : List Char) : Option (List Char) :=
  if s[2]? = some ':' then do
    let (time, rest) ← takeTime s
    guard (rest = [])
    return time
  else do
    let (date, rest) ← takeDate s
    match rest with
    | [] => return date
    | c :: rest =>
      guard (c = 'T' ∨ c = 't' ∨ c = ' ')
      let (time, rest) ← takeTime rest
      return date ++ 'T' :: time ++ (← offset? rest)

end Passcode.Toml
