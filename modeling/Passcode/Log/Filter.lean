import Passcode.Log.Event
import Passcode.Log.Pattern
import Passcode.Number.Literal
import Passcode.Text.Alphanumeric
import Passcode.Text.Blank
import Passcode.Text.Lowercase
import Passcode.Text.Numeral
import Passcode.Text.Split

/-!
# The log filter

Which events reach the log is said by *directives* with commas between them. A directive is a
level, a target, or a target and a level, `target=level`; a target without a level lets everything
through. Of the directives that care about an event the most specific one decides: the one with the
longest target, and among directives for the same target the last.

A directive may also name a span, or a field that an event has to carry. Directives for spans, and
for values of fields, hold inside of spans only; outside of them they let nothing through.
-/

namespace Passcode

open Passcode.Text (splitOn)

/-- The threshold that a text names: a level, or `none` for a log that is off. Levels also go by
their numbers. -/
def Level.threshold? (text : String) : Option (Option Level) :=
  match Text.readBelow (twoTo 64) text with
  | some n => [none, some error, some warn, some info, some debug, some trace][n]?
  | none =>
    if Text.eqIgnoringAsciiCase text "off" then some none
    else
      let levels := [error, warn, info, debug, trace]
      (levels.find? fun l => Text.eqIgnoringAsciiCase text l.name).map some

/-- A directive of the log filter. -/
structure Directive where
  /-- What the targets it cares about start with. -/
  target? : Option String := none
  /-- The span it holds in. -/
  span? : Option String := none
  /-- The field it asks for, and whether it asks for a value of it too. -/
  field? : Option (String × Bool) := none
  /-- The least urgent level it lets through. -/
  threshold : Option Level := some .trace
deriving Repr, DecidableEq

namespace Directive

/-- A directive with the threshold that a text after an equals sign names. -/
def withThreshold? (d : Directive) (text : List Char) : Option Directive :=
  if text = [] then some d
  else (Level.threshold? (String.ofList text)).map fun t => { d with threshold := t }

/-- A text that is being cut into parts. The marks between parts are looked for in its core, which
is the text without the blanks around it; the parts themselves are cut at the places of the marks
from the whole text. Blanks before a directive so shift all of its parts. -/
structure Source where
  whole : List Char
  core : List Char
deriving Repr

/-- A text with its core. -/
def Source.ofText (s : List Char) : Source := ⟨s, Text.trimEnd (Text.trimStart s)⟩

/-- The part from the place where a first rest of the core begins. -/
def Source.partFrom (t : Source) (first : List Char) : List Char :=
  t.whole.drop (t.core.length - first.length)

/-- The part from the place where a first rest of the core begins to that of a second. -/
def Source.part (t : Source) (first second : List Char) : List Char :=
  (t.partFrom first).take (first.length - second.length)

/-- The end of a directive: nothing, or an equals sign and a level. -/
def ending? (t : Source) (d : Directive) : List Char → Option Directive
  | [] => some d
  | '=' :: rest => d.withThreshold? (t.partFrom rest)
  | _ => none

/-- Whether a text can be the value of a field: a number, or a pattern. -/
def isFieldValue (text : List Char) : Bool :=
  (Number.Binary64.ofText? text).isSome || isPattern text

/-- The field that a text between braces asks for. -/
def fieldOf? (text : List Char) : Option (String × Bool) :=
  match splitOn '=' text with
  | [] => none
  | [name] => if name = [] then none else some (String.ofList name, false)
  | name :: value :: _ => if isFieldValue value then some (String.ofList name, true) else none

/-- A directive from the rest of the core after the bracket that opens a span. -/
def spanned? (t : Source) (d : Directive) (s : List Char) : Option Directive := do
  let isEnd (c : Char) : Bool := c = ']' || c = '\x7b'
  let stop := s.dropWhile fun c => !isEnd c
  let name := t.part s stop
  match stop with
  | ']' :: rest => ending? t { d with span? := some (String.ofList name) } rest
  | _ :: inner =>
    let close := inner.dropWhile (· ≠ '\x7d')
    let field ← fieldOf? (t.part inner close)
    let span? := if name = [] then none else some (String.ofList name)
    match close with
    | _ :: ']' :: rest => ending? t { d with span? := span?, field? := some field } rest
    | _ => none
  | [] => none

/-- The directive that a word is: a level if it names one, otherwise a target. -/
def ofWord (word : String) : Directive :=
  match Level.threshold? word with
  | some t => { threshold := t }
  | none => { target? := some word }

/-- Whether a directive may start with a character. -/
def isStart (c : Char) : Bool := c = '-' || c = ':' || c = '_' || Text.isAlphanumeric c

/-- The directive that a text is. -/
def ofChars? (text : List Char) : Option Directive :=
  let t := Source.ofText text
  match t.core with
  | [] => none
  | '[' :: s => spanned? t {} s
  | c :: _ =>
    if isStart c then
      let isEnd (c : Char) : Bool := c = '=' || c = '['
      let stop := t.core.dropWhile fun c => !isEnd c
      let target? := some (String.ofList (t.part t.core stop))
      match stop with
      | [] => some (ofWord (String.ofList t.whole))
      | '=' :: rest => withThreshold? { target? } (t.partFrom rest)
      | _ :: rest => spanned? t { target? } rest
    else none

/-- Whether a directive holds outside of spans. -/
def isPlain (d : Directive) : Bool := d.span?.isNone && !d.field?.any (·.2)

/-- Whether a directive cares about events of a target that carry the given fields. -/
def caresAbout (d : Directive) (target : String) (fields : List String) : Bool :=
  d.isPlain && (d.target?.all fun t => target.startsWith t)
    && d.field?.all fun f => fields.contains f.1

/-- How specific the target of a directive is. -/
def reach (d : Directive) : Nat := (d.target?.map fun t => t.utf8ByteSize + 1).getD 0

/-- Whether a directive decides where `other`, which stands before it, cares too. -/
def isOver (d other : Directive) : Bool :=
  if d.reach ≠ other.reach then d.reach > other.reach
  else
    match d.field?, other.field? with
    | none, some _ => false
    | some f, some g => g.1 ≤ f.1
    | _, none => true

end Directive

/-- A log filter: its directives in the order given. -/
structure LogFilter where
  directives : List Directive
deriving Repr, DecidableEq

namespace LogFilter

/-- The filter that a text is. Without directives only errors pass. -/
def ofText? (text : String) : Option LogFilter := do
  let pieces := (splitOn ',' text.toList).filter (· ≠ [])
  let directives ← pieces.mapM Directive.ofChars?
  return ⟨if directives = [] then [{ threshold := some .error }] else directives⟩

/-- The directive that decides about events of a target that carry the given fields. -/
def decisive? (f : LogFilter) (target : String) (fields : List String) : Option Directive :=
  (f.directives.filter fun d => d.caresAbout target fields).foldl
    (fun best d => some (match best with
      | some b => if d.isOver b then d else b
      | none => d)) none

/-- Whether events of a level and a target that carry the given fields reach the log. -/
def lets (f : LogFilter) (level : Level) (target : String) (fields : List String) : Bool :=
  match (f.decisive? target fields).bind Directive.threshold with
  | some threshold => level.rank ≤ threshold.rank
  | none => false

/-- Whether an event reaches the log. -/
def admits (f : LogFilter) (e : Event) : Bool :=
  f.lets e.level e.target ("message" :: e.fields.map (·.1))

end LogFilter

end Passcode
