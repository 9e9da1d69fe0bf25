import Passcode.Number.Shortest
import Passcode.Text.Quoted

/-!
# JSON text as a tree of what was found

A text is decoded from left to right and the first problem in text order is the one reported,
whether it is broken JSON or a value of the wrong type. A `Tree` therefore keeps the flaws of a
text at the places where a reader meets them: decoding walks a tree in text order and stops at the
first thing that is wrong for it.

A value can be *read* or *skipped*. A key nobody asks for is skipped, and skipping is more
tolerant: a number too large for any type and half a surrogate pair are no problem there. So a
leaf carries both answers. The key of an object is a tree as well, because a reader of named values
tells a key of another type from a broken one; for every other reader such a key is malformed, and
its skipping answer says so.
-/

namespace Passcode.Json

/-- What can be wrong with the form of a text: it breaks the grammar, or it ends too early. -/
inductive Flaw where
  | malformed
  | ended
deriving Repr, DecidableEq

/-- Why decoding a text failed: its form, or a well-formed part that does not fit. -/
inductive Fault where
  | flaw (f : Flaw)
  | data (message : String)
deriving Repr, DecidableEq

/-- A number of a text: integers that fit 64 bits stay integers. -/
inductive Number where
  | natural (n : Nat)
  | negative (n : Int)
  | float (x : Number.Binary64)
deriving Repr, DecidableEq

/-- A value that is neither array nor object. -/
inductive Scalar where
  | null
  | bool (b : Bool)
  | number (n : Number)
  | string (s : String)
deriving Repr, DecidableEq

/-- A JSON text as a reader meets it, up to its first unreadable place. -/
inductive Tree where
  /-- A leaf, or the place where the text breaks off: what reading and what skipping it gives. -/
  | leaf (read : Except Flaw Scalar) (skip : Option Flaw)
  /-- An array, and what is wrong after its last item. -/
  | array (items : List Tree) (stop : Option Flaw)
  /-- An object as keys and values, and what is wrong after its last member. -/
  | object (members : List (Tree × Tree)) (stop : Option Flaw)
deriving Inhabited

/-- A place where no value can be found. -/
def Tree.broken (f : Flaw) : Tree := .leaf (.error f) (some f)

/-- A leaf without a flaw. -/
def Tree.ofScalar (s : Scalar) : Tree := .leaf (.ok s) none

mutual

/-- The flaw met when a value is skipped, if any. -/
def Tree.skipFlaw : Tree → Option Flaw
  | .leaf _ skip => skip
  | .array items stop => (itemsFlaw items).or stop
  | .object members stop => (membersFlaw members).or stop

/-- The first flaw met when items are skipped. -/
def itemsFlaw : List Tree → Option Flaw
  | [] => none
  | item :: rest => item.skipFlaw.or (itemsFlaw rest)

/-- The first flaw met when members are skipped. -/
def membersFlaw : List (Tree × Tree) → Option Flaw
  | [] => none
  | (key, value) :: rest => key.skipFlaw.or (value.skipFlaw.or (membersFlaw rest))

end

/-- The text of an object's key. A key that is no string is malformed, whatever it is. -/
def Tree.keyText : Tree → Except Flaw String
  | .leaf (.ok (.string s)) none => .ok s
  | .leaf _ (some f) => .error f
  | .leaf (.error f) none => .error f
  | _ => .error .malformed

/-- A number as messages name it. -/
def Number.describe : Number → String
  | .natural n => s!"integer `{n}`"
  | .negative n => s!"integer `{n}`"
  | .float x => s!"floating point `{x.scientificText}`"

/-- A leaf as messages name it. -/
def Scalar.describe : Scalar → String
  | .null => "null"
  | .bool b => s!"boolean `{b}`"
  | .number n => n.describe
  | .string s => s!"string {Text.quoted s}"

end Passcode.Json
