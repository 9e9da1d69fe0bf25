import Passcode.Json.Tree
import Passcode.Number.Power
import Passcode.Text.Numeral

/-!
# From text to tree

The grammar of JSON as a total function. It never fails: a text that breaks off becomes a tree
with the flaw at the place where it was found, and nothing after that place is looked at.

Bytes that are no text have no character. A reader of bytes puts a stand-in character in their
place, which makes a string unreadable but leaves it skippable.
-/

namespace Passcode.Json

open Passcode.Number (Binary64)
open Passcode.Text (isDigit digitValue digitsValue)

/-- Drop the blanks between tokens. -/
def dropBlanks (s : List Char) : List Char :=
  s.dropWhile fun c => c = ' ' || c = '\n' || c = '\t' || c = '\r'

/-! ## Strings -/

/-- What a string literal is made of: characters, and units of UTF-16 written by their number. -/
inductive Piece where
  | char (c : Char)
  | unit (u : Nat)
deriving Repr, DecidableEq

/-- The unit written by four hexadecimal digits. -/
def unit? (a b c d : Char) : Option Nat := Text.natInBase? 16 [a, b, c, d]

/-- The character that a letter stands for after a backslash. -/
def escaped? : Char → Option Char
  | '"' => some '"'
  | '\\' => some '\\'
  | '/' => some '/'
  | 'b' => some '\x08'
  | 'f' => some '\x0c'
  | 'n' => some '\n'
  | 'r' => some '\r'
  | 't' => some '\t'
  | _ => none

/-- The bytes of a text in UTF-8. -/
def byteCount (s : List Char) : Nat := s.foldr (fun c n => c.utf8Size + n) 0

/-- Split a string literal after its opening quote into pieces, and give the text after the
closing quote or the flaw that ends it. -/
def pieces : List Char → List Piece × Except Flaw (List Char)
  | [] => ([], .error .ended)
  | '"' :: rest => ([], .ok rest)
  | ['\\'] => ([], .error .ended)
  | '\\' :: 'u' :: a :: b :: c :: d :: rest =>
    match unit? a b c d with
    | some u => (.unit u :: (pieces rest).1, (pieces rest).2)
    | none => ([], .error .malformed)
  | '\\' :: 'u' :: short => ([], .error (if byteCount short < 4 then .ended else .malformed))
  | '\\' :: letter :: rest =>
    match escaped? letter with
    | some c => (.char c :: (pieces rest).1, (pieces rest).2)
    | none => ([], .error .malformed)
  | c :: rest =>
    if c < ' ' then ([], .error .malformed)
    else (.char c :: (pieces rest).1, (pieces rest).2)

/-- Whether a unit is the first half of a surrogate pair. -/
def isHighHalf (u : Nat) : Bool := 0xd800 ≤ u && u < 0xdc00

/-- Whether a unit is the second half of a surrogate pair. -/
def isLowHalf (u : Nat) : Bool := 0xdc00 ≤ u && u < 0xe000

/-- The characters of a string, pairs of surrogates joined. Half a pair is a flaw; one at the very
end takes the flaw `frontier` that the string ends in. -/
def joinPieces (standIn : Option Char) (frontier : Flaw) : List Piece → Except Flaw (List Char)
  | [] => .ok []
  | .char c :: rest =>
    if standIn = some c then .error .malformed
    else (joinPieces standIn frontier rest).map (c :: ·)
  | .unit u :: rest =>
    if isLowHalf u then .error .malformed
    else if isHighHalf u then
      match rest with
      | [] => .error frontier
      | .char _ :: _ => .error .malformed
      | .unit v :: rest =>
        if isLowHalf v then
          (joinPieces standIn frontier rest).map
            (Char.ofNat (0x10000 + (u - 0xd800) * 0x400 + (v - 0xdc00)) :: ·)
        else .error .malformed
    else (joinPieces standIn frontier rest).map (Char.ofNat u :: ·)

/-- A value and the text after it, or no text where the value breaks off. -/
abbrev Found := Tree × Option (List Char)

/-- The string literal after an opening quote. -/
def string (standIn : Option Char) (s : List Char) : Found :=
  match pieces s with
  | (ps, .ok rest) =>
    (.leaf ((joinPieces standIn .malformed ps).map fun cs => .string (String.ofList cs)) none,
      some rest)
  | (ps, .error f) =>
    (.leaf (match joinPieces standIn f ps with | .error g => .error g | .ok _ => .error f) (some f),
      none)

/-! ## Numbers -/

/-- The largest significand that is kept exactly. -/
def maxSignificand : Nat := twoTo 64 - 1

/-- Take digits into a significand as long as it fits 64 bits: the significand, and how many
digits were taken. -/
def takeDigits : Nat → List Char → Nat × Nat
  | significand, [] => (significand, 0)
  | significand, d :: ds =>
    let next := 10 * significand + digitValue d
    if next > maxSignificand then (significand, 0)
    else
      let (final, taken) := takeDigits next ds
      (final, taken + 1)

/-- `significand * 10 ^ exponent` by one rounded product or quotient per step of 308 powers of ten;
too large a number is malformed. -/
def scaleByTen : Nat → Binary64 → Int → Except Flaw Binary64
  | 0, x, _ => .ok x
  | steps + 1, x, exponent =>
    if exponent.natAbs ≤ 308 then
      if 0 ≤ exponent then
        let product := x.mul (Binary64.tenPower exponent.toNat)
        if product.isInfinite then .error .malformed else .ok product
      else .ok (x.div (Binary64.tenPower exponent.natAbs))
    else if x.isZero then .ok x
    else if 0 ≤ exponent then .error .malformed
    else scaleByTen steps (x.div (Binary64.tenPower 308)) (exponent + 308)

/-- The largest exponent that a literal may name. -/
def maxExponent : Int := maxSigned 32

/-- A number literal without its sign: digits before the point, digits after it, and the sign and
digits of an exponent. -/
structure Literal where
  whole : List Char
  fraction : List Char
  isInteger : Bool
  exponentNegative : Bool
  exponentDigits : List Char

/-- The value of a literal. Integers of 64 bits stay integers, except for minus zero. -/
def Literal.value (negative : Bool) (l : Literal) : Except Flaw Number :=
  let (significand, taken) := takeDigits 0 l.whole
  let dropped := l.whole.length - taken
  if l.isInteger && dropped == 0 then
    if !negative then .ok (.natural significand)
    else if significand = 0 || significand > twoTo 63 then
      .ok (.float (Binary64.ofNat significand).neg)
    else .ok (.negative (-(significand : Int)))
  else
    let (significand, places) := takeDigits significand l.fraction
    let named : Int := digitsValue 0 l.exponentDigits
    let signed (x : Binary64) : Number := .float (if negative then x.neg else x)
    if named > maxExponent then
      if significand ≠ 0 && !l.exponentNegative then .error .malformed
      else .ok (signed (Binary64.zero false))
    else
      let shift : Int := (dropped : Int) - places
      let exponent := if l.exponentNegative then shift - named else shift + named
      let exponent := max (-maxExponent - 1) (min maxExponent exponent)
      (scaleByTen 4 (Binary64.ofNat significand) exponent).map signed

/-- A number that is broken before `rest`: reading it ends where the text ends. -/
def brokenNumber (rest : List Char) : Found :=
  (.leaf (.error (if rest = [] then .ended else .malformed)) (some .malformed), none)

/-- The exponent of a literal whose digits are read, after the letter `e`. -/
def exponentPart (s : List Char) : Bool × List Char :=
  match s with
  | '+' :: rest => (false, rest)
  | '-' :: rest => (true, rest)
  | rest => (false, rest)

/-- A number literal after its sign. -/
def number (negative : Bool) (s : List Char) : Found :=
  let whole := s.takeWhile isDigit
  let rest := s.dropWhile isDigit
  if whole = [] then brokenNumber s
  else if whole.head? = some '0' && whole.length > 1 then (Tree.broken .malformed, none)
  else
    let afterPoint := match rest with
      | '.' :: more => some more
      | _ => none
    let fraction := (afterPoint.getD []).takeWhile isDigit
    let rest := (afterPoint.map (·.dropWhile isDigit)).getD rest
    if afterPoint.isSome && fraction = [] then brokenNumber rest
    else
      let afterLetter := match rest with
        | 'e' :: more | 'E' :: more => some (exponentPart more)
        | _ => none
      match afterLetter with
      | none =>
        let literal : Literal := ⟨whole, fraction, afterPoint.isNone, false, []⟩
        (.leaf ((literal.value negative).map .number) none, some rest)
      | some (down, more) =>
        let digits := more.takeWhile isDigit
        if digits = [] then brokenNumber more
        else
          (.leaf ((Literal.value negative ⟨whole, fraction, false, down, digits⟩).map .number) none,
            some (more.dropWhile isDigit))

/-! ## Values -/

/-- The rest of a word such as `true`, of which the first letter is read. -/
def word (meaning : Scalar) : List Char → List Char → Found
  | [], s => (Tree.ofScalar meaning, some s)
  | _ :: _, [] => (Tree.broken .ended, none)
  | c :: cs, d :: s => if c = d then word meaning cs s else (Tree.broken .malformed, none)

/-- A value that opens with neither bracket nor brace. -/
def scalar (standIn : Option Char) (s : List Char) : Found :=
  match s with
  | [] => (Tree.broken .ended, none)
  | '"' :: rest => string standIn rest
  | 'n' :: rest => word .null ['u', 'l', 'l'] rest
  | 't' :: rest => word (.bool true) ['r', 'u', 'e'] rest
  | 'f' :: rest => word (.bool false) ['a', 'l', 's', 'e'] rest
  | '-' :: rest => number true rest
  | c :: rest => if isDigit c then number false (c :: rest) else (Tree.broken .malformed, none)

/-- A key that is no string: readable as what it is, but never skippable. -/
def oddKey (s : List Char) : Tree :=
  match s with
  | [] => Tree.broken .ended
  | '[' :: _ => .array [] (some .malformed)
  | '\x7b' :: _ => .object [] (some .malformed)
  | s =>
    match (scalar none s).1 with
    | .leaf read _ => .leaf read (some .malformed)
    | tree => tree

mutual

/-- The value at the start of a text. -/
def value (standIn : Option Char) : Nat → List Char → Found
  | 0, _ => (Tree.broken .ended, none)
  | fuel + 1, s =>
    match dropBlanks s with
    | '[' :: rest =>
      match dropBlanks rest with
      | ']' :: rest => (.array [] none, some rest)
      | rest =>
        let (items, stop, after) := items standIn fuel rest
        (.array items stop, after)
    | '\x7b' :: rest =>
      match dropBlanks rest with
      | '\x7d' :: rest => (.object [] none, some rest)
      | [] => (.object [] (some .ended), none)
      | rest =>
        let (members, stop, after) := members standIn fuel rest
        (.object members stop, after)
    | s => scalar standIn s

/-- An item of an array and the items after it. -/
def items (standIn : Option Char) :
    Nat → List Char → List Tree × Option Flaw × Option (List Char)
  | 0, _ => ([], some .ended, none)
  | fuel + 1, s =>
    match value standIn fuel s with
    | (item, none) => ([item], none, none)
    | (item, some rest) =>
      match dropBlanks rest with
      | ']' :: rest => ([item], none, some rest)
      | ',' :: rest =>
        let (more, stop, after) := items standIn fuel rest
        (item :: more, stop, after)
      | [] => ([item], some .ended, none)
      | _ => ([item], some .malformed, none)

/-- A member of an object and the members after it. -/
def members (standIn : Option Char) :
    Nat → List Char → List (Tree × Tree) × Option Flaw × Option (List Char)
  | 0, _ => ([], some .ended, none)
  | fuel + 1, s =>
    match dropBlanks s with
    | '"' :: rest =>
      match string standIn rest with
      | (key, none) => ([(key, Tree.broken .malformed)], none, none)
      | (key, some rest) =>
        match dropBlanks rest with
        | ':' :: rest =>
          match value standIn fuel rest with
          | (value, none) => ([(key, value)], none, none)
          | (value, some rest) =>
            match dropBlanks rest with
            | '\x7d' :: rest => ([(key, value)], none, some rest)
            | ',' :: rest =>
              let (more, stop, after) := members standIn fuel rest
              ((key, value) :: more, stop, after)
            | [] => ([(key, value)], some .ended, none)
            | _ => ([(key, value)], some .malformed, none)
        | [] => ([(key, Tree.broken .ended)], none, none)
        | _ => ([(key, Tree.broken .malformed)], none, none)
    | s => ([(oddKey s, Tree.broken .malformed)], none, none)

end

/-- A whole text: its value, and whether anything but blanks follows it. -/
structure Document where
  tree : Tree
  trailing : Bool

/-- Read a text as one JSON value. Every step of the reader consumes a character, so the length of
the text bounds their number. -/
def Document.ofChars (standIn : Option Char) (s : List Char) : Document :=
  match value standIn (2 * s.length + 2) s with
  | (tree, none) => ⟨tree, false⟩
  | (tree, some rest) => ⟨tree, dropBlanks rest ≠ []⟩

end Passcode.Json
