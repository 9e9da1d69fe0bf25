import Passcode.Domain.Ascii
import Passcode.Text.Address
import Passcode.Text.Alphanumeric
import Passcode.Text.Utf8

/-!
# Addresses

An address names a user at a domain. The checks here admit what mail can be delivered to: a user is
made of words with points between them or is quoted, and a domain is a name, in any script, or the
address of a host.
-/

namespace Passcode.Mail

open Passcode.Text (splitOn utf8Bytes)

/-- An address. -/
structure Address where
  user : String
  domain : String
deriving Repr, DecidableEq

/-- The text of an address. -/
def Address.text (a : Address) : String := a.user ++ "@" ++ a.domain

/-- Why a text is no address. -/
inductive AddressFault where
  | grammar
  | user
  | domain
deriving Repr, DecidableEq

/-- The text of a fault. -/
def AddressFault.text : AddressFault → String
  | grammar => "Invalid input"
  | user => "Invalid email user"
  | domain => "Invalid email domain"

/-! ## Characters -/

/-- Whether a character is a sign that may stand in a word. -/
def isWordSign (c : Char) : Bool :=
  ['!', '#', '$', '%', '&', '\'', '*', '+', '-', '/', '=', '?', '^', '_', '\x60', '\x7b', '|',
    '\x7d', '~'].contains c

/-- Whether a character is a blank within a line. -/
def isSpaceOrTab (c : Char) : Bool := c = ' ' || c = '\t'

/-- Whether the number of a character consists of two bytes that would be a character in UTF-8. Such
a number lies among those of the Hangul syllables or just after them. -/
def isPairOfBytes (c : Char) : Bool :=
  let high := c.toNat / 256
  let low := c.toNat % 256
  0xc2 ≤ high && high ≤ 0xdf && 0x80 ≤ low && low ≤ 0xbf

/-- Whether a character may stand in a word that can be delivered to. -/
def isWordChar (c : Char) : Bool := Text.isAlphanumeric c || isWordSign c || isPairOfBytes c

/-- Whether a text is a word that can be delivered to. -/
def isWord (s : List Char) : Bool := s ≠ [] && s.all isWordChar

/-! ## Users -/

/-- The longest user, in bytes. -/
def maxUserBytes : Nat := 64

/-- Whether a text may stand between the quotes of a user: a backslash needs a sign after it. -/
def isQuotedUser : List Char → Bool
  | [] => true
  | '\\' :: c :: s => '!' ≤ c && c ≤ '~' && isQuotedUser s
  | c :: s =>
    c ≠ '"' && c ≠ '\\' && (isSpaceOrTab c || ('!' ≤ c && c ≤ '~') || isPairOfBytes c)
      && isQuotedUser s

/-- What is between two marks at the ends of a text. -/
def between? (first last : Char) (s : List Char) : Option (List Char) :=
  if s.length ≥ 2 && s.head? = some first && s.getLast? = some last then some (s.drop 1).dropLast
  else none

/-- Whether a user can be delivered to. -/
def isUser (s : List Char) : Bool :=
  (utf8Bytes s).length ≤ maxUserBytes &&
    match between? '"' '"' s with
    | some inner => inner ≠ [] && isQuotedUser inner
    | none => (splitOn '.' s).all isWord

/-! ## Domains -/

/-- The longest domain, in bytes. -/
def maxDomainBytes : Nat := 254

/-- The longest label of a domain, in bytes. -/
def maxLabelBytes : Nat := 63

/-- Whether a text is a label of a domain. -/
def isLabel (s : List Char) : Bool :=
  isWord s && (utf8Bytes s).length ≤ maxLabelBytes
    && s.head?.any Text.isAlphanumeric && s.getLast?.any Text.isAlphanumeric

/-- Whether a character may stand in a domain between brackets. -/
def isBracketedChar (c : Char) : Bool :=
  ('!' ≤ c && c ≤ 'Z') || ('^' ≤ c && c ≤ '~') || isPairOfBytes c

/-- Whether a text is a name of a host, or anything between brackets. -/
def isHostName (s : List Char) : Bool :=
  (utf8Bytes s).length ≤ maxDomainBytes &&
    match between? '[' ']' s with
    | some inner => inner.all isBracketedChar
    | none => (splitOn '.' s).all isLabel

/-- Whether a text is the address of a host. -/
def isHostAddress (s : List Char) : Bool :=
  let s := (between? '[' ']' s).getD s
  Text.isIpv4 s || Text.isIpv6 s

/-- Whether a domain can be delivered to as it is written. -/
def isHost (s : List Char) : Bool := isHostName s || isHostAddress s

/-- Whether a domain can be delivered to, as it is written or by its name in ASCII. -/
def isDomain (s : List Char) : Bool := isHost s || (Domain.asciiForm? s).any isHost

/-- The address with a user and a domain. -/
def Address.ofParts (user domain : List Char) : Except AddressFault Address :=
  if !isUser user then .error .user
  else if !isDomain domain then .error .domain
  else .ok ⟨String.ofList user, String.ofList domain⟩

end Passcode.Mail
