import Passcode.Settings.Variables
import Passcode.Text.Alphanumeric
import Passcode.Text.Blank

/-!
# Files of variables

A `.env` file holds one variable per line, `NAME=value`, with comments, quotes, escapes and
references to other variables. A quoted value may go over several lines, so the file is first cut
into logical lines by following the quotes.

Reading is tolerant as a whole and strict line by line: the variables before the first malformed
line count, the rest of the file does not. A variable that already has a text keeps it.

## Main definitions

* `EnvFile.takeLine` — the next logical line
* `EnvFile.parseLine` — the variable that a logical line sets
* `Variables.withFile` — the variables completed by a file
-/

namespace Passcode.Settings.EnvFile

open Passcode.Text (isBlank isAlphanumeric trimStart trimEnd)

/-! ## Logical lines -/

/-- Where a line stands with respect to quotes. -/
inductive Standing where
  | plain
  | afterBlank
  | escape
  | weak
  | weakEscape
  | strong
  | strongEscape
  | comment
deriving Repr, DecidableEq

/-- The standing outside quotes after a character that is no blank. -/
def Standing.outside (c : Char) : Standing :=
  if c = '\\' then .escape else if c = '"' then .weak else if c = '\'' then .strong else .plain

/-- The standing after one more character. -/
def Standing.next (s : Standing) (c : Char) : Standing :=
  match s with
  | .afterBlank => if c = '#' then .comment else .outside c
  | .plain => if isBlank c && c ≠ '\n' && c ≠ '\r' then .afterBlank else .outside c
  | .escape => .plain
  | .weak => if c = '\\' then .weakEscape else if c = '"' then .plain else .weak
  | .weakEscape => .weak
  | .strong => if c = '\\' then .strongEscape else if c = '\'' then .plain else .strong
  | .strongEscape => .strong
  | .comment => .comment

/-- Follow a line up to its end or to a comment: the standing, and the text before the comment. -/
def follow (s : Standing) : List Char → Standing × List Char
  | [] => (s, [])
  | c :: rest =>
    match s.next c with
    | .comment => (.comment, [])
    | next =>
      let (final, text) := follow next rest
      (final, c :: text)

/-- The first physical line of a text, with its line feed, and the text after it. -/
def physicalLine : List Char → List Char × List Char
  | [] => ([], [])
  | '\n' :: rest => (['\n'], rest)
  | c :: rest =>
    let (line, after) := physicalLine rest
    (c :: line, after)

/-- The line without the line feed at its end, and without a carriage return before that. -/
def dropLineEnd (s : List Char) : List Char :=
  match s.reverse with
  | '\n' :: '\r' :: rest => rest.reverse
  | '\n' :: rest => rest.reverse
  | _ => s

/-- The next logical line: the physical lines `held` so far and as many more as it takes to leave
the quotes. `none` at the end of the text, an error where the text ends inside quotes. -/
def takeLine : Nat → Standing → List Char → List Char →
    Option (Except Unit (List Char × List Char))
  | 0, _, _, _ => none
  | fuel + 1, standing, held, s =>
    if s = [] then
      if standing = .plain then none else some (.error ())
    else
      let (line, rest) := physicalLine s
      if (trimStart (held ++ line)).head? = some '#' then some (.ok ([], rest))
      else
        let (final, text) := follow standing line
        match final with
        | .plain => some (.ok (dropLineEnd (held ++ line), rest))
        | .comment => some (.ok (held ++ text, rest))
        | final => takeLine fuel final (held ++ line) rest

/-! ## Values -/

/-- What a reference to a variable gives. -/
abbrev Lookup := String → String

/-- Where the reader of a value stands. -/
inductive ValueStanding where
  /-- Outside a reference; `inWeak` between double quotes. -/
  | text
  | strong
  | escaped
  /-- After `$`, with the letters and digits of the name so far, in reverse. -/
  | reference (name : List Char)
  /-- Inside the braces of a reference. -/
  | braced (name : List Char)
  /-- After the value, where only a comment may follow. -/
  | ended
deriving Repr, DecidableEq

/-- The characters of a reference, whose name is given in reverse. -/
def resolve (lookup : Lookup) (name : List Char) : List Char :=
  (lookup (String.ofList name.reverse)).toList

/-- Read a value from where the reader stands. `none` for a malformed value. -/
def valueFrom (lookup : Lookup) (weak : Bool) : ValueStanding → List Char → Option (List Char)
  | .text, [] | .escaped, [] => if weak then none else some []
  | .ended, [] => some []
  | .strong, [] => none
  | .reference name, [] => if weak then none else some (resolve lookup name)
  | .braced _, [] => none
  | .ended, c :: rest =>
    if c = ' ' || c = '\t' then valueFrom lookup weak .ended rest
    else if c = '#' then (if weak then none else some [])
    else none
  | .escaped, c :: rest =>
    if c = '\\' || c = '\'' || c = '"' || c = '$' || c = ' ' then
      (valueFrom lookup weak .text rest).map (c :: ·)
    else if c = 'n' then (valueFrom lookup weak .text rest).map ('\n' :: ·)
    else none
  | .strong, c :: rest =>
    if c = '\'' then valueFrom lookup weak .text rest
    else (valueFrom lookup weak .strong rest).map (c :: ·)
  | .reference name, c :: rest =>
    if isAlphanumeric c then valueFrom lookup weak (.reference (c :: name)) rest
    else if c = '\x7b' && name = [] then valueFrom lookup weak (.braced []) rest
    else if c = '$' then
      (valueFrom lookup weak (.reference []) rest).map (resolve lookup name ++ ·)
    else (valueFrom lookup weak .text rest).map fun more => resolve lookup name ++ c :: more
  | .braced name, c :: rest =>
    if c = '\x7d' then (valueFrom lookup weak .text rest).map (resolve lookup name ++ ·)
    else valueFrom lookup weak (.braced (c :: name)) rest
  | .text, c :: rest =>
    if c = '$' then valueFrom lookup weak (.reference []) rest
    else if weak then
      if c = '"' then valueFrom lookup false .text rest
      else if c = '\\' then valueFrom lookup weak .escaped rest
      else (valueFrom lookup weak .text rest).map (c :: ·)
    else if c = '\'' then valueFrom lookup weak .strong rest
    else if c = '"' then valueFrom lookup true .text rest
    else if c = '\\' then valueFrom lookup weak .escaped rest
    else if c = ' ' || c = '\t' then valueFrom lookup weak .ended rest
    else (valueFrom lookup weak .text rest).map (c :: ·)

/-! ## Lines -/

/-- Whether a name may start with a character. -/
def isNameStart (c : Char) : Bool := c.isAlpha || c = '_'

/-- Whether a character may stand in a name. -/
def isNameChar (c : Char) : Bool := c.isAlphanum || c = '_' || c = '.'

/-- A name and the text after it and the blanks that follow. -/
def takeName (s : List Char) : Option (List Char × List Char) :=
  match s with
  | c :: _ =>
    if isNameStart c then some (s.takeWhile isNameChar, trimStart (s.dropWhile isNameChar))
    else none
  | [] => none

/-- The text after an equals sign. -/
def takeEquals : List Char → Option (List Char)
  | '=' :: rest => some rest
  | _ => none

/-- The name and the text of the value of a line that is neither empty nor a comment. -/
def splitLine (s : List Char) : Option (List Char × List Char) := do
  let (name, rest) ← takeName s
  if name = ['e', 'x', 'p', 'o', 'r', 't'] && (takeEquals rest).isNone then
    let (name, rest) ← takeName rest
    return (name, trimStart (← takeEquals rest))
  else return (name, trimStart (← takeEquals rest))

/-- What a logical line sets: nothing, or a variable. The outer `none` is a malformed line. -/
def parseLine (lookup : Lookup) (line : List Char) : Option (Option (String × String)) :=
  let line := trimStart (trimEnd line)
  if line = [] || line.head? = some '#' then some none
  else
    match splitLine line with
    | none => none
    | some (name, value) =>
      if value = [] || value.head? = some '#' then some (some (String.ofList name, ""))
      else (valueFrom lookup false .text value).map fun v =>
        some (String.ofList name, String.ofList v)

end Passcode.Settings.EnvFile

namespace Passcode.Settings

namespace Variables

/-- Set a variable in its place, or after the others if it is new. -/
def set (vars : Variables) (name value : String) : Variables :=
  match vars with
  | [] => [(name, some value)]
  | (other, text?) :: rest =>
    if other = name then (name, some value) :: rest
    else (other, text?) :: Variables.set rest name value

/-- Set a variable that has no text yet. -/
def setUnlessText (vars : Variables) (name value : String) : Variables :=
  if (vars.text? name).isSome then vars else vars.set name value

/-- Complete variables by the lines of a file. `earlier` holds what the lines before said, which
references see where the variables have no text. -/
def withLines : Nat → Variables → List (String × String) → List Char → Variables
  | 0, vars, _, _ => vars
  | fuel + 1, vars, earlier, s =>
    match EnvFile.takeLine (s.length + 1) .plain [] s with
    | none | some (.error ()) => vars
    | some (.ok (line, rest)) =>
      let lookup (name : String) := ((vars.text? name).or (earlier.lookup name)).getD ""
      match EnvFile.parseLine lookup line with
      | none => vars
      | some none => withLines fuel vars earlier rest
      | some (some (name, value)) =>
        withLines fuel (vars.setUnlessText name value) ((name, value) :: earlier) rest

/-- The variables completed by the text of a file. A byte order mark before the text is no part of
it. -/
def withFile (vars : Variables) (text : String) : Variables :=
  let s := match text.toList with
    | '\ufeff' :: rest => rest
    | s => s
  vars.withLines (s.length + 1) [] s

end Variables

end Passcode.Settings
