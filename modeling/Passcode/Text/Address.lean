import Passcode.Text.Numeral
import Passcode.Text.Split

/-!
# Addresses of hosts

The two written forms of the address of a host.
-/

namespace Passcode.Text

/-- A number of one to three digits below 256, without leading zeros. -/
def isOctet (s : List Char) : Bool :=
  s ≠ [] && s.all isDigit && s.length ≤ 3 && digitsValue 0 s < 256
    && (s.length == 1 || s.head? != some '0')

/-- Four numbers with points between them. -/
def isIpv4 (s : List Char) : Bool :=
  let parts := splitOn '.' s
  parts.length == 4 && parts.all isOctet

/-- A number as it may stand in an abridged address: in base 16 after `0x`, in base 8 after another
zero, and in base 10 otherwise. -/
def addressNumber? : List Char → Option Nat
  | '0' :: 'x' :: ds | '0' :: 'X' :: ds => natInBase? 16 ds
  | '0' :: ds => natInBase? 8 ('0' :: ds)
  | ds => natInBase? 10 ds

/-- The number of bytes of an address of the older form. -/
def ipv4Bytes : Nat := 4

/-- One to four numbers with points between them, of which the last stands for all bytes that the
others leave. -/
def isAbridgedIpv4 (s : List Char) : Bool :=
  match (splitOn '.' s).mapM addressNumber? with
  | none => false
  | some numbers =>
    numbers.length ≤ ipv4Bytes && numbers.dropLast.all (· < 256)
      && numbers.getLast?.any (· < twoTo (8 * (ipv4Bytes + 1 - numbers.length)))

/-- One to four hexadecimal digits. -/
def isHextet (s : List Char) : Bool :=
  s ≠ [] && s.length ≤ 4 && s.all fun c => (hexDigit? c).isSome

/-- How many groups of 16 bits a part of an address holds; an address of the older form may stand
at its end. `none` if it is malformed. -/
def groups? (s : List Char) : Option Nat :=
  if s = [] then some 0
  else
    let parts := splitOn ':' s
    match parts.getLast? with
    | none => none
    | some last =>
      if parts.all isHextet then some parts.length
      else if parts.dropLast.all isHextet && isIpv4 last then some (parts.length + 1)
      else none

/-- Eight groups of hexadecimal digits with colons between them, of which one run may be left out
for two colons. -/
def isIpv6 (s : List Char) : Bool :=
  match splitAtText [':', ':'] s with
  | none => groups? s == some 8
  | some (before, after) =>
    match groups? before, groups? after with
    | some m, some n => m + n ≤ 7 && (before = [] || (splitOn ':' before).all isHextet)
    | _, _ => false

end Passcode.Text
