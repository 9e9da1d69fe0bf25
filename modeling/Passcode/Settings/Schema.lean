import Passcode.Json.Decode
import Passcode.Json.Value
import Passcode.Layers.Coerce

/-!
# Schemas of settings

Every group of settings is a structure, and the same settings are read from JSON and from layers
and written to both. A `Schema` states the fields of a group once: their names in the order of
declaration, which of them have to be there, and how each value is written and read. The four
conversions of the group follow from it (`Setting.ofSchema`).

A secret field is read but never written.
-/

namespace Passcode.Settings

/-- How settings of one type are written down and read back. -/
class Setting (α : Type) where
  /-- The value in JSON. -/
  toJson : α → Json.Value
  /-- Reading it from JSON. -/
  ofJson : Json.Decoder α
  /-- The value in a layer; a number too large for a layer is refused. -/
  toLayer : α → Except Layers.Fault Layers.Value
  /-- Reading it from a layer. -/
  ofLayer : Layers.Decoder α

/-- A field of a group of settings. -/
structure Field (S : Type) where
  name : String
  required : Bool
  secret : Bool
  toJson : S → Json.Value
  ofJson : Json.Decoder (S → S)
  toLayer : S → Except Layers.Fault Layers.Value
  ofLayer : Layers.Decoder (S → S)

/-- A field that may be left out. -/
def Field.optional {S α : Type} [Setting α] (name : String) (get : S → α) (set : α → S → S) :
    Field S where
  name := name
  required := false
  secret := false
  toJson s := Setting.toJson (get s)
  ofJson tree := (Setting.ofJson tree).map set
  toLayer s := Setting.toLayer (get s)
  ofLayer v := (Setting.ofLayer v).map set

/-- A field that has to be there. -/
def Field.mandatory {S α : Type} [Setting α] (name : String) (get : S → α) (set : α → S → S) :
    Field S :=
  { Field.optional name get set with required := true }

/-- A field that is read and never written. -/
def Field.hidden {S α : Type} [Setting α] (name : String) (get : S → α) (set : α → S → S) :
    Field S :=
  { Field.optional name get set with secret := true }

/-- The fields of a group of settings, and the values of fields that are left out. -/
class Schema (S : Type) where
  title : String
  fields : List (Field S)
  start : S

namespace Field

variable {S : Type}

/-- The field as a reader of JSON sees it. -/
def json (f : Field S) : Json.Field S :=
  ⟨f.name, if f.required then .required else .optional, f.ofJson⟩

/-- The field as a reader of layers sees it. -/
def layer (f : Field S) : Layers.Field S := ⟨f.name, f.required, f.ofLayer⟩

end Field

/-- The entries of a group in a layer. -/
def layerEntries {S : Type} (s : S) :
    List (Field S) → Except Layers.Fault (List (String × Layers.Value))
  | [] => .ok []
  | f :: fs =>
    match f.toLayer s with
    | .error fault => .error fault
    | .ok v => (layerEntries s fs).map ((f.name, v) :: ·)

/-- The settings of a group, by its schema. -/
instance Setting.ofSchema {S : Type} [Schema S] : Setting S where
  toJson s := .object <|
    ((Schema.fields (S := S)).filter (!·.secret)).map fun f => (f.name, f.toJson s)
  ofJson := Json.decodeRecord (Schema.title S) (Schema.fields.map Field.json) Schema.start
  toLayer s :=
    (layerEntries s ((Schema.fields (S := S)).filter (!·.secret))).map (Layers.Value.table none)
  ofLayer := Layers.coerceRecord (Schema.title S) (Schema.fields.map Field.layer) Schema.start

/-! ## Scalars -/

instance : Setting String where
  toJson := .string
  ofJson := Json.decodeString
  toLayer s := .ok (.text s)
  ofLayer := Layers.coerceText

instance : Setting Bool where
  toJson := .bool
  ofJson := Json.decodeBool
  toLayer b := .ok (.leaf none (.bool b))
  ofLayer := Layers.coerceBool

/-- The complaint about a number that no layer can hold. -/
def tooLarge (n : Nat) : Layers.Fault :=
  .message s!"value {n} is greater than the max {Layers.maxInt}"

/-- A natural number in a layer. -/
def natLayer (n : Nat) : Except Layers.Fault Layers.Value :=
  if (n : Int) ≤ Layers.maxInt then .ok (.leaf none (.int n)) else .error (tooLarge n)

instance : Setting UInt16 where
  toJson n := .int n.toNat
  ofJson tree := (Json.decodeNat "u16" (twoTo 16) tree).map UInt16.ofNat
  toLayer n := natLayer n.toNat
  ofLayer v := (Layers.coerceNat v).map UInt16.ofNat

instance : Setting UInt32 where
  toJson n := .int n.toNat
  ofJson tree := (Json.decodeNat "u32" (twoTo 32) tree).map UInt32.ofNat
  toLayer n := natLayer n.toNat
  ofLayer v := (Layers.coerceNat v).map UInt32.ofNat

instance : Setting UInt64 where
  toJson n := .int n.toNat
  ofJson tree := (Json.decodeNat "u64" (twoTo 64) tree).map UInt64.ofNat
  toLayer n := natLayer n.toNat
  ofLayer v := (Layers.coerceNat v).map UInt64.ofNat

/-- A count of things, as wide as a number of 64 bits. -/
structure Size where
  toUInt64 : UInt64
deriving Repr, DecidableEq

/-- The size with a number. -/
def Size.ofNat (n : Nat) : Size := ⟨UInt64.ofNat n⟩

/-- The number of a size. -/
def Size.toNat (s : Size) : Nat := s.toUInt64.toNat

instance (n : Nat) : OfNat Size n := ⟨Size.ofNat n⟩

instance : Setting Size where
  toJson n := .int n.toNat
  ofJson tree := (Json.decodeNat "usize" (twoTo 64) tree).map Size.ofNat
  toLayer n := natLayer n.toNat
  ofLayer v := (Layers.coerceNat v).map Size.ofNat

instance : Setting Int64 where
  toJson n := .int n.toInt
  ofJson tree := (Json.decodeInt "i64" (twoTo 63) tree).map Int64.ofInt
  toLayer n := .ok (.leaf none (.int n.toInt))
  ofLayer v := (Layers.coerceInt v).map Int64.ofInt

/-! ## Named values -/

/-- A type with a few named values. -/
class Choice (α : Type) where
  title : String
  values : List α
  label : α → String

namespace Choice

variable {α : Type} [Choice α]

/-- The names and what they stand for. -/
def table : List (String × α) := (values (α := α)).map fun a => (label a, a)

instance toSetting : Setting α where
  toJson a := .string (label a)
  ofJson := Json.decodeName table
  toLayer a := .ok (.text (label a))
  ofLayer := Layers.coerceName (title α) table

end Choice

end Passcode.Settings
