import Passcode.Layers.Value
import Passcode.Text.Numeral

/-!
# Paths into a layer

A key such as `server.port` or `hosts[2].name` names a place inside tables and arrays. A key that
does not follow this grammar is the plain name of an entry. Storing at a path makes the tables
and arrays on the way, in place of whatever else stood there.
-/

namespace Passcode.Layers

/-- One step into a value. -/
inductive Step where
  | key (name : String)
  | index (i : Int)
deriving Repr, DecidableEq

/-- The characters a name inside a path may have. -/
def isPathChar (c : Char) : Bool := c.isAlphanum || c = ' ' || c = '_' || c = '-'

/-- The characters that may surround an index. -/
def isIndexBlank (c : Char) : Bool := c = ' ' || c = '\t'

/-- The index before a closing bracket, and the text after the bracket. -/
def takeIndex (s : List Char) : Option (Int × List Char) :=
  let body := s.dropWhile isIndexBlank
  let (sign, body) := match body with
    | '-' :: rest => (['-'], rest)
    | rest => ([], rest)
  let digits := body.takeWhile Text.isDigit
  match (body.dropWhile Text.isDigit).dropWhile isIndexBlank, Text.signed? (sign ++ digits) with
  | ']' :: rest, some n => if fitsSigned 64 n then some (n, rest) else none
  | _, _ => none

/-- The steps after the first name of a path. -/
def stepsOfChars : Nat → List Char → Option (List Step)
  | _, [] => some []
  | 0, _ => none
  | fuel + 1, '.' :: rest =>
    let name := rest.takeWhile isPathChar
    if name = [] then none
    else (stepsOfChars fuel (rest.dropWhile isPathChar)).map (.key (String.ofList name) :: ·)
  | fuel + 1, '[' :: rest =>
    match takeIndex rest with
    | none => none
    | some (i, rest) => (stepsOfChars fuel rest).map (.index i :: ·)
  | _, _ => none

/-- The steps of a path, or one step for a text that is no path. -/
def stepsOf (text : String) : List Step :=
  let s := text.toList
  let name := s.takeWhile isPathChar
  if name = [] then [.key text]
  else
    match stepsOfChars s.length (s.dropWhile isPathChar) with
    | some steps => .key (String.ofList name) :: steps
    | none => [.key text]

/-- Change the item at an index, filling the places before it; a negative index counts from the
end. -/
def modifyItem (items : List Value) (i : Int) (f : Value → Value) : List Value :=
  let place := if 0 ≤ i then i.toNat else items.length - i.natAbs
  let padded := items ++ List.replicate (place + 1 - items.length) Value.nil
  padded.modify place f

/-- Store a value at a path. -/
def Value.store (v : Value) : List Step → Value → Value
  | [], new => new
  | [.key k], new => v.put k new
  | .key k :: steps, new => v.withEntry k (((v.child? k).getD Value.nil).store steps new)
  | .index i :: steps, new =>
    let (origin, items) := v.asArray
    .array origin (modifyItem items i fun item => item.store steps new)

/-- Store the entries of a layer, whose keys are paths, over a base. -/
def Value.overlay (base : Value) (layer : List (String × Value)) : Value :=
  layer.foldl (fun v entry => v.store (stepsOf entry.1) entry.2) base

end Passcode.Layers
