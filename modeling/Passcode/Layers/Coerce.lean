import Passcode.Layers.Value
import Passcode.Number.Power
import Passcode.Number.Shortest
import Passcode.Text.Lowercase
import Passcode.Text.Numeral
import Passcode.Text.Quoted

/-!
# Reading typed settings from layered values

A layer does not know the types of the settings, so a setting is coerced: words count as truth
values, truth values as numbers, numbers as text. What cannot be coerced is a `Fault.wrongType`,
which gathers the key of the value on its way out.

Numbers without sign are read in 64 bits and then kept modulo the size of their type.
-/

namespace Passcode.Layers

/-- Why settings could not be loaded. -/
inductive Fault where
  /-- A complaint that is complete as it stands. -/
  | message (text : String)
  /-- A value that cannot be coerced: what it is, what was expected, its key and its origin. -/
  | wrongType (found expected : String) (key origin : Option String)
  /-- A file that does not follow its grammar. -/
  | brokenFile
deriving Repr, DecidableEq

/-- The text of a fault. -/
def Fault.text : Fault → String
  | .message text => text
  | .wrongType found expected key origin =>
    s!"invalid type: {found}, expected {expected}"
      ++ (key.map fun k => s!" for key `{k}`").getD ""
      ++ (origin.map fun o => s!" in {o}").getD ""
  | .brokenFile => ""

/-- Add the name of the table entry in which a fault was found. -/
def Fault.underKey (name : String) : Fault → Fault
  | .wrongType found expected key origin =>
    let rest := key.getD ""
    let dot := if rest = "" || rest.startsWith "[" then "" else "."
    .wrongType found expected (some (name ++ dot ++ rest)) origin
  | fault => fault

/-- Add the number of the array item in which a fault was found. -/
def Fault.underIndex (i : Nat) : Fault → Fault
  | .wrongType found expected key origin =>
    .wrongType found expected (some (s!"[{i}]" ++ key.getD "")) origin
  | fault => fault

/-- A reader of typed values. -/
abbrev Decoder (α : Type) := Value → Except Fault α

/-- A value as coercions name it when they refuse it. -/
def Value.describe : Value → String
  | .leaf _ .nil => "unit value"
  | .leaf _ (.bool b) => s!"boolean `{b}`"
  | .leaf _ (.int n) => s!"integer 64 bit `{n}`"
  | .leaf _ (.float x) => s!"floating point `{x.plainText}`"
  | .leaf _ (.text s) => s!"string {Text.quoted s}"
  | .array _ _ => "sequence"
  | .table _ _ => "map"

/-- Refuse a value. -/
def refuse {α : Type} (v : Value) (found expected : String) : Except Fault α :=
  .error (.wrongType found expected none v.origin)

/-- The number that a word for yes or no stands for. -/
def wordNumber? (lower : String) : Option Nat :=
  if lower = "true" ∨ lower = "on" ∨ lower = "yes" then some 1
  else if lower = "false" ∨ lower = "off" ∨ lower = "no" then some 0
  else none

/-- The smallest and largest integers of 64 bits. -/
def minInt : Int := -1 - maxSigned 64

/-- The largest signed integer of 64 bits. -/
def maxInt : Int := maxSigned 64

/-- The largest unsigned integer of 64 bits. -/
def maxNat : Int := twoTo 64 - 1

/-- An integer with sign. -/
def coerceInt : Decoder Int
  | .leaf _ (.int n) => .ok n
  | .leaf _ (.bool b) => .ok b.toNat
  | .leaf _ (.float x) => .ok (x.saturate minInt maxInt)
  | .leaf origin (.text s) =>
    match wordNumber? (Text.lowercase s) with
    | some n => .ok n
    | none =>
      match (Text.signed? s.toList).filter fun n => minInt ≤ n && n ≤ maxInt with
      | some n => .ok n
      | none => refuse (.leaf origin (.text s)) s!"string {Text.quoted s}" "an integer"
  | v => refuse v v.describe "an integer"

/-- An integer without sign of 64 bits. -/
def coerceNat : Decoder Nat
  | .leaf origin (.int n) =>
    if 0 ≤ n then .ok n.toNat
    else
      refuse (.leaf origin (.int n)) s!"integer 64 bit `{n}`" "an unsigned 64 bit or less integer"
  | .leaf _ (.bool b) => .ok b.toNat
  | .leaf _ (.float x) => .ok (x.saturate 0 maxNat).toNat
  | .leaf origin (.text s) =>
    match wordNumber? (Text.lowercase s) with
    | some n => .ok n
    | none =>
      match Text.readBelow (twoTo 64) s with
      | some n => .ok n
      | none => refuse (.leaf origin (.text s)) s!"string {Text.quoted s}" "an integer"
  | v => refuse v v.describe "an integer"

/-- A truth value. -/
def coerceBool : Decoder Bool
  | .leaf _ (.bool b) => .ok b
  | .leaf _ (.int n) => .ok (n != 0)
  | .leaf _ (.float x) => .ok !x.isZero
  | .leaf origin (.text s) =>
    let lower := Text.lowercase s
    if lower = "1" ∨ lower = "true" ∨ lower = "on" ∨ lower = "yes" then .ok true
    else if lower = "0" ∨ lower = "false" ∨ lower = "off" ∨ lower = "no" then .ok false
    else refuse (.leaf origin (.text s)) s!"string {Text.quoted lower}" "a boolean"
  | v => refuse v v.describe "a boolean"

/-- A text. -/
def coerceText : Decoder String
  | .leaf _ (.text s) => .ok s
  | .leaf _ (.bool b) => .ok (if b then "true" else "false")
  | .leaf _ (.int n) => .ok (toString n)
  | .leaf _ (.float x) => .ok x.plainText
  | v => refuse v v.describe "a string"

/-- One of a few named values of the type `title`: its name, or a table with the name as its only
key. -/
def coerceName {α : Type} (title : String) (table : List (String × α)) : Decoder α :=
  let named (name : String) : Except Fault α :=
    match table.lookup name with
    | some a => .ok a
    | none => .error (.message s!"enum {title} does not have variant constructor {name}")
  let shapeless : Except Fault α := .error (.message
    s!"value of enum {title} should be represented by either string or table with exactly one key")
  fun
  | .leaf _ (.text s) => named s
  | .table _ [(name, _)] => named name
  | _ => shapeless

/-! ## Records -/

/-- A field of a record being read: its name, whether a record without it is refused, and how its
value enters the record. -/
structure Field (S : Type) where
  name : String
  required : Bool
  decode : Decoder (S → S)

/-- A scalar as a reader of records names it. -/
def Leaf.describe : Leaf → String
  | .nil => "unit value"
  | .bool b => s!"boolean `{b}`"
  | .int n => s!"integer `{n}`"
  | .float x =>
    let text := x.plainText
    let whole := !text.contains '.' && !x.isInfinite && x != .nan
    "floating point `" ++ text ++ (if whole then ".0`" else "`")
  | .text s => s!"string {Text.quoted s}"

/-- Fill the fields of a record from a table, in the order of the fields. -/
def fillEntries {S : Type} (entries : List (String × Value)) :
    List (Field S) → S → Except Fault S
  | [], record => .ok record
  | field :: fields, record =>
    match entries.lookup field.name with
    | none => fillEntries entries fields record
    | some v =>
      match field.decode v with
      | .error fault => .error (fault.underKey field.name)
      | .ok fill => fillEntries entries fields (fill record)

/-- Fill the fields of a record from the items of an array; further items are ignored. -/
def fillItems {S : Type} (title : String) (count : Nat) :
    Nat → List (Field S) → S → List Value → Except Fault S
  | _, [], record, _ => .ok record
  | index, field :: fields, record, [] =>
    if field.required then
      let elements := if count = 1 then "element" else "elements"
      .error (.message
        s!"invalid length {index}, expected struct {title} with {count} {elements}")
    else fillItems title count (index + 1) fields record []
  | index, field :: fields, record, item :: items =>
    match field.decode item with
    | .error fault => .error (fault.underIndex index)
    | .ok fill => fillItems title count (index + 1) fields (fill record) items

/-- Read a record called `title`, starting from its defaults. -/
def coerceRecord {S : Type} (title : String) (fields : List (Field S)) (start : S) : Decoder S
  | .leaf _ l => .error (.message s!"invalid type: {l.describe}, expected struct {title}")
  | .array _ items => fillItems title fields.length 0 fields start items
  | .table _ entries => do
    let record ← fillEntries entries fields start
    match fields.find? fun f => f.required && (entries.lookup f.name).isNone with
    | some f => throw (.message s!"missing field `{f.name}`")
    | none => return record

end Passcode.Layers
