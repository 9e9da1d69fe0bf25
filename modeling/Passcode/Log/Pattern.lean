import Passcode.Text.Alphanumeric
import Passcode.Text.Blank
import Passcode.Text.Numeral
import Passcode.Text.Split

/-!
# Patterns for the values of fields

A directive of the log filter may ask for a field whose value fits a pattern, written as a regular
expression. Events are matched with such directives only inside of spans, which this program does
not open, so all that matters about a pattern is whether it is one: `isPattern` reads a text once,
from left to right, and keeps the groups that are open and the modes that hold.

A count of repetitions stands between braces, and so does the whole pattern; it cannot hold the
end of a count, so a brace outside of a class is never right. Word boundaries are refused unless
the Unicode mode is off, and with that mode off whatever could match a part of a character is.

## Main definitions

* `isPattern` — whether a text is a pattern
* `Pattern.escape?`, `Pattern.charClass?`, `Pattern.groupStart?` — the parts of a pattern that
  begin with a backslash, a square bracket, and a round one
-/

namespace Passcode

namespace Pattern

/-- What holds for the part of a pattern that is being read. -/
structure Modes where
  /-- Whether classes and boundaries are those of Unicode. -/
  isUnicode : Bool := true
  /-- Whether blanks and comments do not count. -/
  isSpaced : Bool := false
deriving Repr, DecidableEq

/-- Run steps until the state says that they are done. Every step has to take something. -/
def readUntil {σ : Type} (isDone : σ → Bool)
    (step : σ → List Char → Option (σ × List Char)) (state : σ) (s : List Char) :
    Option (σ × List Char) :=
  if isDone state then some (state, s)
  else
    match step state s with
    | none => none
    | some (state, rest) =>
      if _h : rest.length < s.length then readUntil isDone step state rest else none
termination_by s.length

/-- Drop the blanks and comments before a text. -/
def skipBlanks (inComment : Bool) : List Char → List Char
  | [] => []
  | c :: s =>
    if inComment then skipBlanks (c ≠ '\n') s
    else if Text.isBlank c then skipBlanks false s
    else if c = '#' then skipBlanks true s
    else c :: s

/-- Drop what does not count before a text. -/
def Modes.skip (m : Modes) (s : List Char) : List Char :=
  if m.isSpaced then skipBlanks false s else s

/-! ## Escapes -/

/-- What an escape stands for. -/
inductive Escape where
  | char (c : Char)
  | charClass
  | boundary
deriving Repr, DecidableEq

/-- A number of some hexadecimal digits, read after `acc`. -/
def hexDigits? (m : Modes) (acc : Nat) : Nat → List Char → Option (Nat × List Char)
  | 0, s => some (acc, s)
  | count + 1, s =>
    match m.skip s with
    | [] => none
    | c :: s => (Text.hexDigit? c).bind fun d => hexDigits? m (16 * acc + d) count s

/-- The character with a code point of some hexadecimal digits. -/
def codePoint? (m : Modes) (count : Nat) (s : List Char) : Option (Escape × List Char) := do
  let (n, s) ← hexDigits? m 0 count s
  guard (n.isValidChar && (m.isUnicode || count > 2 || n < 0x80))
  return (.char (Char.ofNat n), s)

/-- What stands after a backslash. -/
def escape? (m : Modes) : List Char → Option (Escape × List Char)
  | [] => none
  | c :: s =>
    if c = 'x' then codePoint? m 2 s
    else if c = 'u' then codePoint? m 4 s
    else if c = 'U' then codePoint? m 8 s
    else if c = 'p' || c = 'P' then
      match m.skip s with
      | category :: s =>
        if m.isUnicode && "clmnpsz".toList.contains category.toLower then some (.charClass, s)
        else none
      | [] => none
    else if c = 'd' || c = 's' || c = 'w' then some (.charClass, s)
    else if c = 'D' || c = 'S' || c = 'W' then if m.isUnicode then some (.charClass, s) else none
    else if c = 'A' || c = 'z' then some (.boundary, s)
    else if c = 'b' || c = 'B' || c = '<' || c = '>' then
      if m.isUnicode || s.head? = some '\x7b' then none else some (.boundary, s)
    else if ['a', 'f', 't', 'n', 'r', 'v'].contains c then some (.char c, s)
    else if c.toNat < 0x80 && !c.isAlphanum then some (.char c, s)
    else none

/-! ## Classes -/

/-- An item of a class: a character, or a class. -/
def classItem? (m : Modes) : List Char → Option (Option Char × List Char)
  | [] => none
  | '\\' :: s => do
    match ← escape? m s with
    | (.char c, s) => if m.isUnicode || c.toNat < 0x80 then some (some c, s) else none
    | (.charClass, s) => return (none, s)
    | (.boundary, _) => none
  | c :: s => if m.isUnicode || c.toNat < 0x80 then some (some c, s) else none

/-- An item of a class, or a range from one character to another. -/
def classRange? (m : Modes) (s : List Char) : Option (List Char) := do
  let (first?, s) ← classItem? m s
  let s := m.skip s
  match s with
  | [] => none
  | '-' :: more =>
    match m.skip more with
    | [] => none
    | c :: more =>
      if c = ']' || c = '-' then return s
      else
        let (last?, rest) ← classItem? m (c :: more)
        let first ← first?
        let last ← last?
        guard (first ≤ last)
        return rest
  | _ => return s

/-- Drop the hyphens before a text. -/
def skipHyphens (m : Modes) : List Char → List Char
  | [] => []
  | c :: s => if c = '-' || m.isSpaced && Text.isBlank c then skipHyphens m s else c :: s

/-- What opens a class, after its bracket: a sign that turns it round, hyphens, and a closing
bracket that stands for itself. -/
def classStart? (m : Modes) (s : List Char) : Option (List Char) := do
  let s := m.skip s
  guard (m.isUnicode || s.head? ≠ some '^')
  let s := if s.head? = some '^' then m.skip s.tail else s
  match s with
  | ']' :: s => return s
  | s => return skipHyphens m s

/-- The names of the classes that are written between colons. -/
def classNames : List String :=
  ["alnum", "alpha", "ascii", "blank", "cntrl", "digit", "graph", "lower", "print", "punct",
    "space", "upper", "word", "xdigit"]

/-- A class given by its name, after its bracket, and whether it is turned round. -/
def namedClass? : List Char → Option (Bool × List Char)
  | ':' :: s => do
    let isTurned := s.head? = some '^'
    let s := if isTurned then s.tail else s
    let name := s.takeWhile (· ≠ ':')
    guard (classNames.contains (String.ofList name))
    match s.drop name.length with
    | ':' :: ']' :: s => return (isTurned, s)
    | _ => none
  | _ => none

/-- A step within a class; the state is the number of classes that are open. -/
def classStep? (m : Modes) (depth : Nat) (s : List Char) : Option (Nat × List Char) :=
  match m.skip s with
  | [] => none
  | '[' :: s =>
    match namedClass? s with
    | some (isTurned, s) => if m.isUnicode || !isTurned then some (depth, s) else none
    | none => (classStart? m s).map fun s => (depth + 1, s)
  | ']' :: s => some (depth - 1, s)
  | '&' :: '&' :: s | '-' :: '-' :: s | '~' :: '~' :: s => some (depth, s)
  | s => (classRange? m s).map fun s => (depth, s)

/-- A class, after its bracket. -/
def charClass? (m : Modes) (s : List Char) : Option (List Char) := do
  let s ← classStart? m s
  let (_, s) ← readUntil (· = 0) (classStep? m) 1 s
  return s

/-! ## Groups -/

/-- What has been read of a pattern. -/
structure Progress where
  modes : Modes := {}
  /-- The modes outside of every group that is open, the innermost first. -/
  outer : List Modes := []
  /-- The names of groups. -/
  names : List (List Char) := []
  /-- Whether there is something that can be repeated. -/
  hasItem : Bool := false
  /-- Whether the text is over. -/
  isOver : Bool := false
deriving Repr, DecidableEq

/-- The modes that letters before and after a hyphen switch on and off. -/
def Modes.switch (m : Modes) (on off : List Char) : Modes where
  isUnicode := on.contains 'u' || m.isUnicode && !off.contains 'u'
  isSpaced := on.contains 'x' || m.isSpaced && !off.contains 'x'

/-- The modes that a text of letters switches to. -/
def modes? (m : Modes) (letters : List Char) : Option Modes := do
  let on := letters.takeWhile (· ≠ '-')
  let off := (letters.dropWhile (· ≠ '-')).drop 1
  guard (letters.contains '-' → off ≠ [])
  guard ((on ++ off).all fun c => ['i', 'm', 's', 'U', 'u', 'R', 'x'].contains c)
  guard ((on ++ off).Nodup)
  return m.switch on off

/-- Whether a character may stand in the name of a group. -/
def isNameChar (c : Char) : Bool := ['_', '.', '[', ']'].contains c || Text.isAlphanumeric c

/-- Whether a text is the name of a group. -/
def isName (s : List Char) : Bool :=
  s.head?.any (fun c => c = '_' || Text.isAlphanumeric c && !Text.isDigit c) && s.all isNameChar

/-- Open a group. -/
def Progress.openGroup (p : Progress) (inner : Modes) : Progress :=
  { p with modes := inner, outer := p.modes :: p.outer, hasItem := false }

/-- A named group, after the bracket that opens its name. -/
def namedGroup? (p : Progress) (s : List Char) : Option (Progress × List Char) := do
  let (name, s) ← Text.splitAtFirst '>' s
  guard (isName name && !p.names.contains name)
  return ({ p with names := name :: p.names }.openGroup p.modes, s)

/-- What stands after the round bracket that opens a group or switches modes. -/
def groupStart? (p : Progress) (s : List Char) : Option (Progress × List Char) :=
  match p.modes.skip s with
  | '?' :: 'P' :: '<' :: s => namedGroup? p s
  | '?' :: '<' :: s => namedGroup? p s
  | '?' :: s => do
    let isEnd (c : Char) : Bool := c = ':' || c = ')'
    let letters := s.takeWhile fun c => !isEnd c
    let modes ← modes? p.modes letters
    match s.drop letters.length with
    | ':' :: s => return (p.openGroup modes, s)
    | ')' :: s =>
      guard (letters ≠ [])
      return ({ p with modes, hasItem := false }, s)
    | _ => none
  | s => some (p.openGroup p.modes, s)

/-! ## Patterns -/

/-- Take one item of a pattern, or one sign. -/
def step? (p : Progress) (s : List Char) : Option (Progress × List Char) :=
  let item (s : List Char) : Progress × List Char := ({ p with hasItem := true }, s)
  match p.modes.skip s with
  | [] => none
  | '(' :: s => groupStart? p s
  | ')' :: s =>
    match p.outer with
    | [] => none
    | modes :: outer => some ({ p with modes, outer, hasItem := true }, s)
  | '|' :: s => some ({ p with hasItem := false }, s)
  | '[' :: s => (charClass? p.modes s).map item
  | '\\' :: s => (escape? p.modes s).map fun (_, s) => item s
  | '.' :: s => if p.modes.isUnicode then some (item s) else none
  | '\x7b' :: _ => none
  | c :: s =>
    if c = '?' || c = '*' || c = '+' then
      if p.hasItem then some (item (if s.head? = some '?' then s.tail else s)) else none
    else some (item s)

end Pattern

/-- Whether a text is a pattern. -/
def isPattern (s : List Char) : Bool :=
  let finished (p : Pattern.Progress) (s : List Char) : Bool := p.modes.skip s = []
  let step (p : Pattern.Progress) (s : List Char) : Option (Pattern.Progress × List Char) :=
    (Pattern.step? p s).map fun (p, s) => ({ p with isOver := finished p s }, s)
  let start : Pattern.Progress := { isOver := s = [] }
  match Pattern.readUntil (·.isOver) step start s with
  | some (p, _) => p.outer = []
  | none => false

end Passcode
