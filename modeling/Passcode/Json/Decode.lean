import Passcode.Json.Reader

/-!
# Decoding

Readers of typed values over a `Tree`. A record is described by its fields: a name, whether it has
to be there, and how its value goes into the record. `decodeRecord` reads a record from an object,
in any order of the keys and ignoring unknown ones, or from an array in the order of the fields.

Messages say what was found and what was expected.
-/

namespace Passcode.Json

/-- A reader of typed values. -/
abbrev Decoder (α : Type) := Tree → Except Fault α

/-- A well-formed value of the wrong type. -/
def invalidType (found expected : String) : Fault :=
  .data s!"invalid type: {found}, expected {expected}"

/-- A number outside the range of its type. -/
def outOfRange (n : Number) (expected : String) : Fault :=
  .data s!"invalid value: {n.describe}, expected {expected}"

/-- Read a leaf with `accept`, and report anything else as not the `expected`. -/
def leafDecoder {α : Type} (expected : String) (accept : Scalar → Option (Except Fault α)) :
    Decoder α
  | .leaf (.error f) _ => .error (.flaw f)
  | .leaf (.ok s) _ => (accept s).getD (.error (invalidType s.describe expected))
  | .array _ _ => .error (invalidType "sequence" expected)
  | .object _ _ => .error (invalidType "map" expected)

/-- A text. -/
def decodeString : Decoder String :=
  leafDecoder "a string" fun
    | .string s => some (.ok s)
    | _ => none

/-- A truth value. -/
def decodeBool : Decoder Bool :=
  leafDecoder "a boolean" fun
    | .bool b => some (.ok b)
    | _ => none

/-- A number without sign below `bound`, of the type called `name`. -/
def decodeNat (name : String) (bound : Nat) : Decoder Nat :=
  leafDecoder name fun
    | .number (.natural n) =>
      some (if n < bound then .ok n else .error (outOfRange (.natural n) name))
    | .number (.negative n) => some (.error (outOfRange (.negative n) name))
    | _ => none

/-- A number with sign from `-bound` up to below `bound`, of the type called `name`. -/
def decodeInt (name : String) (bound : Nat) : Decoder Int :=
  leafDecoder name fun
    | .number (.natural n) =>
      some (if n < bound then .ok n else .error (outOfRange (.natural n) name))
    | .number (.negative n) =>
      some (if -(bound : Int) ≤ n then .ok n else .error (outOfRange (.negative n) name))
    | _ => none

/-- A value that may be `null`. -/
def decodeOption {α : Type} (decode : Decoder α) : Decoder (Option α)
  | .leaf (.ok .null) _ => .ok none
  | tree => (decode tree).map some

/-- The value `null`, which a named value may carry. -/
def decodeUnit : Decoder Unit :=
  leafDecoder "unit" fun
    | .null => some (.ok ())
    | _ => none

/-- Names between backticks, as messages list what they would have accepted. -/
def listNames : List String → String
  | [] => "there are no variants"
  | [a] => s!"expected `{a}`"
  | [a, b] => s!"expected `{a}` or `{b}`"
  | names => "expected one of " ++ ", ".intercalate (names.map fun n => s!"`{n}`")

/-- Look up a name among those of `table`. -/
def lookupName {α : Type} (table : List (String × α)) (name : String) : Except Fault α :=
  match table.lookup name with
  | some a => .ok a
  | none => .error (.data s!"unknown variant `{name}`, {listNames (table.map (·.1))}")

/-- One of a few named values: its name, or an object whose only key is the name and whose value is
`null`. Anything else in its place is malformed. -/
def decodeName {α : Type} (table : List (String × α)) : Decoder α
  | .leaf (.error f) _ => .error (.flaw f)
  | .leaf (.ok (.string s)) _ => lookupName table s
  | .leaf (.ok _) _ => .error (.flaw .malformed)
  | .array _ _ => .error (.flaw .malformed)
  | .object [] stop => .error (.flaw (stop.getD .malformed))
  | .object ((key, value) :: rest) stop => do
    let name ← leafDecoder "variant identifier" (fun
      | .string s => some (.ok s)
      | _ => none) key
    let a ← lookupName table name
    decodeUnit value
    if rest ≠ [] then throw (.flaw .malformed)
    match stop with
    | some f => throw (.flaw f)
    | none => return a

/-! ## Records -/

/-- Whether a field has to be there: in both forms of a record, only in an array, or in neither. -/
inductive Presence where
  | required
  | inArrays
  | optional
deriving Repr, DecidableEq

/-- A field of a record being read: its name, whether a record without it is refused, and how its
value enters the record. -/
structure Field (S : Type) where
  name : String
  presence : Presence
  decode : Decoder (S → S)

/-- A record being read, and the fields it has so far. -/
structure Partial (S : Type) where
  record : S
  seen : List String

/-- Add one member of an object to a record. -/
def addMember {S : Type} (fields : List (Field S)) (p : Partial S) (key value : Tree) :
    Except Fault (Partial S) :=
  match key.keyText with
  | .error f => .error (.flaw f)
  | .ok name =>
    match fields.find? (·.name == name) with
    | none =>
      match value.skipFlaw with
      | some f => .error (.flaw f)
      | none => .ok p
    | some field =>
      if p.seen.contains name then .error (.data s!"duplicate field `{name}`")
      else (field.decode value).map fun fill => ⟨fill p.record, name :: p.seen⟩

/-- Add the members of an object in text order. -/
def addMembers {S : Type} (fields : List (Field S)) :
    Partial S → List (Tree × Tree) → Except Fault (Partial S)
  | p, [] => .ok p
  | p, (key, value) :: rest =>
    match addMember fields p key value with
    | .error e => .error e
    | .ok p => addMembers fields p rest

/-- Fill the fields from the items of an array, from the field with number `index` on. -/
def fillItems {S : Type} (title : String) (count : Nat) (stop : Option Flaw) :
    Nat → List (Field S) → S → List Tree → Except Fault S
  | _, [], record, [] =>
    match stop with
    | some f => .error (.flaw f)
    | none => .ok record
  | _, [], _, _ :: _ => .error (.flaw .malformed)
  | index, field :: fields, record, [] =>
    match stop with
    | some f => .error (.flaw f)
    | none =>
      if field.presence ≠ .optional then
        let elements := if count = 1 then "element" else "elements"
        .error (.data s!"invalid length {index}, expected struct {title} with {count} {elements}")
      else fillItems title count stop (index + 1) fields record []
  | index, field :: fields, record, item :: items =>
    match field.decode item with
    | .error e => .error e
    | .ok fill => fillItems title count stop (index + 1) fields (fill record) items

/-- Read a record called `title`, starting from its defaults. -/
def decodeRecord {S : Type} (title : String) (fields : List (Field S)) (start : S) : Decoder S
  | .leaf (.error f) _ => .error (.flaw f)
  | .leaf (.ok s) _ => .error (invalidType s.describe s!"struct {title}")
  | .array items stop => fillItems title fields.length stop 0 fields start items
  | .object members stop => do
    let p ← addMembers fields ⟨start, []⟩ members
    match stop with
    | some f => throw (.flaw f)
    | none =>
      match fields.find? fun f => f.presence = .required && !p.seen.contains f.name with
      | some f => throw (.data s!"missing field `{f.name}`")
      | none => return p.record

/-- Decode a whole text. -/
def Document.decode {α : Type} (d : Document) (decode : Decoder α) : Except Fault α := do
  let a ← decode d.tree
  if d.trailing then throw (.flaw .malformed)
  return a

/-- Decode a text. -/
def decodeText {α : Type} (decode : Decoder α) (text : String) : Except Fault α :=
  (Document.ofChars none text.toList).decode decode

end Passcode.Json
