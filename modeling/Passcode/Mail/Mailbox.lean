import Passcode.Mail.Address
import Passcode.Text.Blank

/-!
# Mailboxes

A mailbox is an address with an optional name before it, `Name <user@host>`. The name is a row of
words, quoted words and points; a user may be quoted as well. Blanks may stand between the parts of
a name and before either part of an address.

A step of the grammar takes a text from its start and gives what it read and the text that is left.
What it read is checked only then, since the grammar admits more than can be delivered to.
-/

namespace Passcode.Mail

/-- An address with an optional name. -/
structure Mailbox where
  name? : Option String
  address : Address
deriving Repr, DecidableEq

/-! ## Characters -/

/-- Whether a character may stand in an unquoted word. -/
def isAtomChar (c : Char) : Bool := c.isAlphanum || isWordSign c || c.toNat ≥ 0x80

/-- Whether a character is a control character that may be quoted: none that ends a line. -/
def isQuotableControl (c : Char) : Bool :=
  (1 ≤ c.toNat && c.toNat < 0x20 || c.toNat = 0x7f)
    && c ≠ '\t' && c ≠ '\n' && c ≠ '\r'

/-- Whether a character stands for itself between quotes. -/
def isQuotedChar (c : Char) : Bool :=
  c ≠ '"' && c ≠ '\\' && (('!' ≤ c && c ≤ '~') || c.toNat ≥ 0x80 || isQuotableControl c)

/-- Whether a character may follow a backslash between quotes. -/
def isEscapable (c : Char) : Bool :=
  (' ' ≤ c && c ≤ '~') || c = '\t' || isQuotableControl c

/-! ## Words -/

/-- A step of the grammar: what it read, and the text that is left. -/
abbrev Step := List Char → Option (List Char × List Char)

/-- A text without the blanks it starts with. -/
def dropBlanks (s : List Char) : List Char := s.dropWhile isSpaceOrTab

/-- Exactly one given character. -/
def just (c : Char) : Step
  | d :: s => if d = c then some ([d], s) else none
  | [] => none

/-- An unquoted word. -/
def atom : Step := fun s =>
  match s.takeWhile isAtomChar with
  | [] => none
  | a => some (a, s.dropWhile isAtomChar)

/-- The rest of a quoted word whose first quote is taken. Blanks count as one blank, which `pending`
holds back; those before the last quote do not count. -/
def quotedRest (pending : List Char) : Step
  | [] => none
  | '"' :: s => some ([], s)
  | '\\' :: c :: s =>
    if isEscapable c then (quotedRest [] s).map fun (a, s) => (pending ++ c :: a, s) else none
  | c :: s =>
    if isSpaceOrTab c then quotedRest [' '] s
    else if isQuotedChar c then (quotedRest [] s).map fun (a, s) => (pending ++ c :: a, s)
    else none

/-- A quoted word. Its quotes are not part of what it says. -/
def quotedWord : Step
  | '"' :: s => quotedRest [] s
  | _ => none

/-- A word. -/
def word : Step := fun s => (quotedWord s).or (atom s)

/-! ## Names -/

/-- A part of a name after its first word. -/
def namePart : Step := fun s => (word s).or (just '.' s)

/-- The rest of a name after its first word. Blanks between its parts count as one blank. -/
def nameRest (s : List Char) : List Char × List Char :=
  let t := dropBlanks s
  match namePart t with
  | none => ([], t)
  | some (a, rest) =>
    if _h : rest.length < s.length then
      let (b, rest) := nameRest rest
      ((if t.length < s.length then [' '] else []) ++ a ++ b, rest)
    else ([], t)
termination_by s.length

/-- A name before an address. -/
def name : Step := fun s => do
  let (a, s) ← word s
  let (b, s) := nameRest s
  return (a ++ b, s)

/-! ## Addresses -/

/-- Words after the first of a row of words with single points between them. -/
def dottedRest (s : List Char) : List Char × List Char :=
  match (just '.' s).bind fun (_, s) => atom s with
  | none => ([], s)
  | some (a, rest) =>
    if _h : rest.length < s.length then
      let (b, rest) := dottedRest rest
      ('.' :: a ++ b, rest)
    else ([], s)
termination_by s.length

/-- Unquoted words with single points between them. -/
def dottedAtoms : Step := fun s => do
  let (a, s) ← atom s
  let (b, s) := dottedRest s
  return (a ++ b, s)

/-- The part of an address before the `@`. -/
def userPart : Step := fun s => (dottedAtoms (dropBlanks s)).or (quotedWord (dropBlanks s))

/-- The part of an address after the `@`. -/
def domainPart : Step := fun s => dottedAtoms (dropBlanks s)

/-- The two parts of an address, and the text that is left. -/
def addressParts (s : List Char) : Option ((List Char × List Char) × List Char) := do
  let (user, s) ← userPart s
  let (_, s) ← just '@' s
  let (domain, s) ← domainPart s
  return ((user, domain), s)

/-- The parts of a mailbox as they are written. -/
structure MailboxParts where
  name? : Option String
  user : List Char
  domain : List Char

/-- The parts of a text that is a mailbox with its address between angle brackets. -/
def bracketed? (s : List Char) : Option MailboxParts := do
  let (name?, s) := match name s with
    | some (name, s) => (some (String.ofList name), s)
    | none => (none, s)
  let (_, s) ← just '<' s
  let ((user, domain), s) ← addressParts s
  if s = ['>'] then some ⟨name?, user, domain⟩ else none

/-- The parts of a text that is just an address. -/
def bare? (s : List Char) : Option MailboxParts := do
  let ((user, domain), s) ← addressParts s
  if s = [] then some ⟨none, user, domain⟩ else none

/-- The mailbox that a text is; white space around it does not count. -/
def Mailbox.ofText (text : String) : Except AddressFault Mailbox :=
  let s := (Text.trim text).toList
  match (bracketed? s).or (bare? s) with
  | none => .error .grammar
  | some p => (Address.ofParts p.user p.domain).map fun a => ⟨p.name?, a⟩

end Passcode.Mail
