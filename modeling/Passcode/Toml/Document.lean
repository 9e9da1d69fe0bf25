import Passcode.Layers.Value
import Passcode.Number.Literal
import Passcode.Text.Split
import Passcode.Toml.Date
import Passcode.Toml.Token

/-!
# TOML documents

A document is a list of key lines and table headers. Keys may be dotted, values may be arrays and
inline tables, and a header opens a table or a further item of an array of tables. Nothing may be
defined twice, and a table that is written as a value cannot be extended by a header.

`Toml.read` gives the root table of a text as a layered value whose parts know their origin, or
nothing for a text that does not follow the grammar.
-/

namespace Passcode.Toml

open Passcode.Number (DecimalLiteral)
open Passcode.Layers (Value Leaf)

/-- A reader over the rest of the text; `none` is a text that breaks the grammar. -/
abbrev Reader := StateT (List Char) Option

/-- Stop: the text breaks the grammar. -/
def broken {α : Type} : Reader α := fun _ => none

/-- Lift a refusal into the reader. -/
def orBroken {α : Type} : Option α → Reader α
  | some a => pure a
  | none => broken

/-- The next token, if the text has one. -/
def nextToken : Reader (Option Token) := fun s =>
  match Token.next s with
  | none => none
  | some none => some (none, s)
  | some (some (t, rest)) => some (some t, rest)

/-- Take the next token if it is `t`. -/
def eat (t : Token) : Reader Bool := fun s =>
  match Token.next s with
  | none => none
  | some none => some (false, s)
  | some (some (u, rest)) => if u = t then some (true, rest) else some (false, s)

/-- Take the token `t`. -/
def expect (t : Token) : Reader Unit := do
  if !(← eat t) then broken

/-- Skip blanks on the line. -/
def skipSpaces : Reader Unit := modify fun s => s.dropWhile isSpace

/-- Take the end of a line or of the text. -/
def lineEnd : Reader Unit := do
  match ← nextToken with
  | none | some .newline => pure ()
  | some _ => broken

/-- Take a comment together with the end of its line. -/
def eatComment : Reader Bool := do
  if (← get).head? = some '#' then
    modify fun s => (s.drop 1).dropWhile isCommentChar
    lineEnd
    return true
  else return false

/-- Take the next token, which has to be a word. -/
def expectWord : Reader (List Char) := do
  match ← nextToken with
  | some (.word s) => return s
  | _ => broken

/-- One part of a key. -/
def keyPart : Reader String := do
  match ← nextToken with
  | some (.word s) => return String.ofList s
  | some (.quoted s false) => return String.ofList s
  | _ => broken

/-- A key: parts with periods between them. -/
def dottedKey : Nat → Reader (List String)
  | 0 => broken
  | fuel + 1 => do
    let part ← keyPart
    skipSpaces
    if ← eat .period then
      skipSpaces
      return part :: (← dottedKey fuel)
    else return [part]

/-- A value of a document. A date is kept as it is written until it is known to count. A table that
dotted keys make can be extended by further dotted keys, other tables cannot. -/
inductive Node where
  | leaf (l : Leaf)
  | date (written : List Char)
  | array (items : List Node)
  | table (dotted : Bool) (entries : List (String × Node))
deriving Repr, Inhabited

/-! ## Numbers and dates -/

/-- How a row of digits stands while it is read. -/
structure DigitRun where
  first : Bool
  leadingZero : Bool
  underscore : Bool

/-- Split a word after the digits it starts with. Underscores may stand between digits. `none` where
there is no digit, an underscore does not stand between digits, or a zero leads another digit and
`leadingZeros` does not allow it. -/
def digitPart (isDigit : Char → Bool) (leadingZeros : Bool) (run : DigitRun) :
    List Char → Option (List Char × List Char)
  | [] => if run.first || run.underscore then none else some ([], [])
  | c :: rest =>
    let next (run : DigitRun) : Option (List Char × List Char) :=
      (digitPart isDigit leadingZeros run rest).map fun (ds, after) =>
        (if c = '_' then ds else c :: ds, after)
    if c = '0' && run.first then next ⟨false, true, run.underscore⟩
    else if isDigit c then
      if !run.first && run.leadingZero && !leadingZeros then none
      else next ⟨false, run.leadingZero, false⟩
    else if c = '_' && run.first then none
    else if c = '_' && !run.underscore then next ⟨run.first, run.leadingZero, true⟩
    else if run.first || run.underscore then none
    else some ([], c :: rest)

/-- The digits a word starts with. -/
def unsignedPart (leadingZeros : Bool) (s : List Char) : Option (List Char × List Char) :=
  digitPart Text.isDigit leadingZeros ⟨true, false, false⟩ s

/-- The digits a word starts with, after an optional sign: whether it is negative, the digits, and
what follows them. -/
def signedPart (leadingZeros : Bool) (s : List Char) : Option (Bool × List Char × List Char) :=
  match s with
  | '-' :: rest => (unsignedPart leadingZeros rest).map fun (ds, after) => (true, ds, after)
  | '+' :: rest => (unsignedPart leadingZeros rest).map fun (ds, after) => (false, ds, after)
  | s => (unsignedPart leadingZeros s).map fun (ds, after) => (false, ds, after)

/-- An integer of 64 bits. -/
def checkedInt (n : Int) : Reader Leaf :=
  if fitsSigned 64 n then return .int n else broken

/-- A decimal integer that is the whole word. -/
def decimalInt (s : List Char) : Reader Leaf := do
  match signedPart false s with
  | some (negative, ds, []) =>
    let n : Int := Text.digitsValue 0 ds
    checkedInt (if negative then -n else n)
  | _ => broken

/-- An integer in another base that is the whole word after its mark. -/
def basedInt (base : Nat) (s : List Char) : Reader Leaf := do
  let isDigit (c : Char) : Bool := (Text.digitIn? base c).isSome
  match digitPart isDigit true ⟨true, false, false⟩ s with
  | some (ds, []) => checkedInt (← orBroken (Text.natInBase? base ds))
  | _ => broken

/-- The exponent of a float: the rest of its last word from the letter `e` on, and further words
where a plus sign has cut it. -/
def exponentPart (suffix : List Char) : Reader Int := do
  match suffix with
  | [] => return 0
  | e :: rest =>
    if e ≠ 'e' && e ≠ 'E' then broken
    else if rest = [] then
      let _ ← eat .plus
      match unsignedPart true (← expectWord) with
      | some (ds, []) => return Text.digitsValue 0 ds
      | _ => broken
    else
      match signedPart true rest with
      | some (negative, ds, []) =>
        let n : Int := Text.digitsValue 0 ds
        return if negative then -n else n
      | _ => broken

/-- A float whose first word is `s`, and whose word after the point is `fraction?`. It has to be
finite. -/
def float (s : List Char) (fraction? : Option (List Char)) : Reader Leaf := do
  match signedPart false s with
  | none => broken
  | some (negative, whole, suffix) =>
    let (fraction, suffix) ← match fraction? with
      | none => pure ([], suffix)
      | some after =>
        if suffix ≠ [] then broken
        else
          match unsignedPart true after with
          | none => broken
          | some parts => pure parts
    let exponent ← exponentPart suffix
    let x := DecimalLiteral.value negative ⟨whole, fraction, exponent⟩
    if x.isInfinite then broken else return .float x

/-- A number whose first word is `s`. -/
def number (s : List Char) : Reader Leaf := do
  match s with
  | '0' :: 'x' :: rest => basedInt 16 rest
  | '0' :: 'o' :: rest => basedInt 8 rest
  | '0' :: 'b' :: rest => basedInt 2 rest
  | s =>
    if s.contains 'e' || s.contains 'E' then float s none
    else if ← eat .period then float s (some (← expectWord))
    else
      match String.ofList s with
      | "inf" => return .float (.infinite false)
      | "-inf" => return .float (.infinite true)
      | "nan" | "-nan" => return .float .nan
      | _ => decimalInt s

/-- A word with the mark before it, if the next token is that mark. -/
def markedWord (t : Token) (c : Char) : Reader (List Char) := do
  if ← eat t then return c :: (← expectWord) else return []

/-- The hour after a date and one blank, if a word follows. -/
def hourAfterBlank : Reader (List Char) := fun s =>
  match Token.next s with
  | some (some (.blank [' '], rest)) =>
    match Token.next rest with
    | some (some (.word w, rest)) => some (' ' :: w, rest)
    | _ => some ([], s)
  | _ => some ([], s)

/-- A date or time whose first word is `s`, after which a colon may have been taken. -/
def date (s : List Char) (colonTaken : Bool) : Reader Node := do
  let hour ← hourAfterBlank
  let colon ← if colonTaken then pure true else eat .colon
  let time ←
    if colon then do
      let minute ← expectWord
      expect .colon
      let second ← expectWord
      let fraction ← markedWord .period '.'
      let plus ← markedWord .plus '+'
      let last ← markedWord .colon ':'
      pure (':' :: minute ++ ':' :: second ++ fraction ++ plus ++ last)
    else pure []
  return .date (if colonTaken then s ++ time else s ++ hour ++ time)

/-- Whether a word that starts like a number is the start of a date. -/
def startsDate (s : List Char) : Bool :=
  s.contains 'T' || s.contains 't'
    || ((s.drop 1).contains '-'
      && (Text.splitAtText ['e', '-'] s).isNone
      && (Text.splitAtText ['E', '-'] s).isNone)

/-- A value whose first token is the word `s`. -/
def wordValue (s : List Char) : Reader Node := do
  match String.ofList s with
  | "true" => return .leaf (.bool true)
  | "false" => return .leaf (.bool false)
  | text =>
    let starts := match s with
      | c :: _ => c = '-' || Text.isDigit c
      | [] => false
    if !starts && text ≠ "inf" && text ≠ "nan" then broken
    else if startsDate s then date s false
    else if ← eat .colon then date s true
    else return .leaf (← number s)

/-! ## Values -/

/-- The entries with the value under a key changed. -/
def replaceEntry (key : String) (v : Node) : List (String × Node) → List (String × Node)
  | [] => []
  | (k, w) :: rest => if k = key then (k, v) :: rest else (k, w) :: replaceEntry key v rest

/-- Add a value under a dotted key. A key that leads through something else than a table of dotted
keys is refused. Whether keys are distinct is left for later, since not every entry counts. -/
def addDotted (entries : List (String × Node)) : List String → Node → Option (List (String × Node))
  | [], _ => none
  | [key], v => some (entries ++ [(key, v)])
  | key :: keys, v =>
    match entries.lookup key with
    | some (.table true inner) =>
      (addDotted inner keys v).map fun inner => replaceEntry key (.table true inner) entries
    | some _ => none
    | none => (addDotted [] keys v).map fun inner => entries ++ [(key, .table true inner)]

/-- Skip blanks, comments and line ends inside an array. -/
def skipLines : Nat → Reader Unit
  | 0 => pure ()
  | fuel + 1 => do
    skipSpaces
    if ← eat .newline then skipLines fuel
    else if ← eatComment then skipLines fuel
    else pure ()

mutual

/-- A value. -/
def value : Nat → Reader Node
  | 0 => broken
  | fuel + 1 => do
    match ← nextToken with
    | some (.quoted s _) => return .leaf (.text (String.ofList s))
    | some (.word s) => wordValue s
    | some .plus => return .leaf (← number (← expectWord))
    | some .leftBrace =>
      skipSpaces
      if ← eat .rightBrace then return .table false []
      else return .table false (← inlineEntries fuel [])
    | some .leftBracket => return .array (← arrayItems fuel)
    | _ => broken

/-- The items of an array after its opening bracket. -/
def arrayItems : Nat → Reader (List Node)
  | 0 => broken
  | fuel + 1 => do
    skipLines (← get).length
    if ← eat .rightBracket then return []
    else
      let item ← value fuel
      skipLines (← get).length
      if ← eat .comma then return item :: (← arrayItems fuel)
      else
        expect .rightBracket
        return [item]

/-- The entries of an inline table, after those read so far. -/
def inlineEntries : Nat → List (String × Node) → Reader (List (String × Node))
  | 0, _ => broken
  | fuel + 1, entries => do
    let key ← dottedKey (← get).length
    skipSpaces
    expect .equals
    skipSpaces
    let v ← value fuel
    let entries ← orBroken (addDotted entries key v)
    skipSpaces
    if ← eat .rightBrace then return entries
    else
      expect .comma
      skipSpaces
      inlineEntries fuel entries

end

/-! ## Documents -/

/-- A place of a document that headers can open: a value is closed, a table is open to further
tables below it, and to its own header as long as it was not `defined`. -/
inductive Place where
  | value (v : Node)
  | table (defined : Bool) (entries : List (String × Place))
  | tables (items : List (List (String × Place)))
deriving Inhabited

/-- The entries with the place under a key changed, or added at the end. -/
def setPlace (key : String) (p : Place) : List (String × Place) → List (String × Place)
  | [] => [(key, p)]
  | (k, q) :: rest => if k = key then (k, p) :: rest else (k, q) :: setPlace key p rest

/-- Key lines as closed places. -/
def closed (entries : List (String × Node)) : List (String × Place) :=
  entries.map fun (k, v) => (k, .value v)

/-- Open a table, or a further item of an array of tables, with its key lines. The lines come after
what earlier headers have put into the table. -/
def openTable (isArray : Bool) (lines : List (String × Node)) :
    List String → List (String × Place) → Option (List (String × Place))
  | [], _ => none
  | [key], entries =>
    match isArray, entries.lookup key with
    | false, none => some (setPlace key (.table true (closed lines)) entries)
    | false, some (.table false inner) =>
      some (setPlace key (.table true (inner ++ closed lines)) entries)
    | true, none => some (setPlace key (.tables [closed lines]) entries)
    | true, some (.tables items) => some (setPlace key (.tables (items ++ [closed lines])) entries)
    | _, some _ => none
  | key :: keys, entries =>
    match entries.lookup key with
    | none =>
      (openTable isArray lines keys []).map fun inner => setPlace key (.table false inner) entries
    | some (.table defined inner) =>
      (openTable isArray lines keys inner).map fun inner =>
        setPlace key (.table defined inner) entries
    | some (.tables items) =>
      match items.getLast? with
      | none => none
      | some last =>
        (openTable isArray lines keys last).map fun last =>
          setPlace key (.tables (items.dropLast ++ [last])) entries
    | some (.value _) => none

/-- A header after its opening bracket: whether it opens an item of an array, and its key. -/
def header : Reader (Bool × List String) := do
  let isArray ← eat .leftBracket
  skipSpaces
  let key ← dottedKey (← get).length
  expect .rightBracket
  if isArray then expect .rightBracket
  skipSpaces
  if !(← eatComment) then lineEnd
  return (isArray, key)

/-- A key line added to those before it. -/
def keyLine (lines : List (String × Node)) : Reader (List (String × Node)) := do
  let key ← dottedKey (← get).length
  skipSpaces
  expect .equals
  skipSpaces
  let v ← value (2 * (← get).length + 2)
  let lines ← orBroken (addDotted lines key v)
  skipSpaces
  if !(← eatComment) then lineEnd
  return lines

/-- Key lines up to the next header or the end of the text. -/
def keyLines : Nat → List (String × Node) → Reader (List (String × Node))
  | 0, lines => return lines
  | fuel + 1, lines => do
    skipLines (← get).length
    match (← get).head? with
    | none | some '[' => return lines
    | some _ => keyLines fuel (← keyLine lines)

/-- A header and the key lines below it. -/
structure Section where
  isArray : Bool
  key : List String
  lines : List (String × Node)

/-- The sections of a text from a header on. -/
def sections : Nat → Reader (List Section)
  | 0 => return []
  | fuel + 1 => do
    if ← eat .leftBracket then
      let (isArray, key) ← header
      let lines ← keyLines (← get).length []
      return ⟨isArray, key, lines⟩ :: (← sections fuel)
    else return []

/-- The whole text: the key lines before the first header, and the sections. -/
def document : Reader (List (String × Node) × List Section) := do
  let lines ← keyLines (← get).length []
  return (lines, ← sections (← get).length)

/-! ## Layers

A table whose first key is `dateKey` stands for a date, which is the text under that key. Its other
entries do not count, and nothing is asked of them; but no header may open a table inside it.
-/

/-- The key that makes a table a date. -/
def dateKey : String := "$__toml_private_datetime"

/-- Whether entries make a date. -/
def isDated {α : Type} (entries : List (String × α)) : Bool :=
  entries.head?.any fun (key, _) => key == dateKey

/-- Whether the keys of entries are distinct. -/
def areDistinct {α : Type} (entries : List (String × α)) : Bool := (entries.map Prod.fst).Nodup

/-- The value of a written date. -/
def dateLayer (origin : String) (written : List Char) : Option Value :=
  (dateText? written).map fun text => .leaf (some origin) (.text (String.ofList text))

/-- The value of a date that is the value of the first of some entries. -/
def datedLayer (origin : String) : List (String × Node) → Option Value
  | (_, .leaf (.text s)) :: _ => dateLayer origin s.toList
  | _ => none

mutual

/-- A value with its origin. -/
def Node.layer (origin : String) : Node → Option Value
  | .leaf l => some (.leaf (some origin) l)
  | .date written => dateLayer origin written
  | .array items => (itemLayers origin items).map (.array (some origin))
  | .table _ entries =>
    if isDated entries then datedLayer origin entries
    else if areDistinct entries then (entryLayers origin entries).map (.table (some origin))
    else none

/-- Items with their origin. -/
def itemLayers (origin : String) : List Node → Option (List Value)
  | [] => some []
  | n :: ns => do return (← n.layer origin) :: (← itemLayers origin ns)

/-- Entries with their origin. -/
def entryLayers (origin : String) : List (String × Node) → Option (List (String × Value))
  | [] => some []
  | (k, n) :: ns => do return (k, ← n.layer origin) :: (← entryLayers origin ns)

end

/-- The values of entries of which none is open to headers. -/
def valuesOnly : List (String × Place) → Option (List (String × Node))
  | [] => some []
  | (k, .value v) :: ps => (valuesOnly ps).map ((k, v) :: ·)
  | _ => none

/-- A table with its origin, given its entries and, where they can be had, their values. -/
def tableLayer (origin : String) (entries : List (String × Place))
    (values : Option (List (String × Value))) : Option Value :=
  if isDated entries then (valuesOnly entries).bind (datedLayer origin)
  else if areDistinct entries then values.map (.table (some origin))
  else none

mutual

/-- A place with its origin. -/
def Place.layer (origin : String) : Place → Option Value
  | .value v => v.layer origin
  | .table _ entries => tableLayer origin entries (placeLayers origin entries)
  | .tables items => (tableLayers origin items).map (.array (some origin))

/-- Entries with their origin. -/
def placeLayers (origin : String) : List (String × Place) → Option (List (String × Value))
  | [] => some []
  | (k, p) :: ps => do return (k, ← p.layer origin) :: (← placeLayers origin ps)

/-- Items of an array of tables with their origin. -/
def tableLayers (origin : String) : List (List (String × Place)) → Option (List Value)
  | [] => some []
  | entries :: rest => do
    let item ← tableLayer origin entries (placeLayers origin entries)
    return item :: (← tableLayers origin rest)

end

/-- The root table of a text. A root that is a date has no sections. -/
def rootOf (lines : List (String × Node)) (sections : List Section) : Option Place :=
  if isDated lines then some (.table true (closed lines))
  else
    (sections.foldlM (fun entries s => openTable s.isArray s.lines s.key entries)
      (closed lines)).map (.table true)

/-- The entries of the root table of a text, which comes from `origin`. A root that is a date has
none. -/
def read (origin text : String) : Option (List (String × Value)) := do
  let ((lines, sections), _) ← document (unixLines text.toList)
  return (← (← rootOf lines sections).layer origin).entries

end Passcode.Toml
