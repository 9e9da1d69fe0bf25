import Passcode.Redis.Fault
import Passcode.Text.Blank
import Passcode.Text.Numeral

/-!
# Replies on the wire

A reply starts with a character for its form and ends its lines with a carriage return and a line
feed. An error reply is a fault. A reply that ends too early is unfinished, and the text that
arrives next goes on from there.

## Main definitions

* `takeReply` — read the reply at the start of a text
* `wireText` — a reply, or the fault that a server signals, as text
-/

namespace Passcode.Redis

/-- Why nothing could be read at the start of a text. -/
inductive Shortfall where
  /-- The text ends too early. -/
  | unfinished
  /-- No text that goes on like this is a reply. -/
  | malformed
deriving Repr, DecidableEq

/-- The text up to the end of a line, and the text after it. -/
def takeWireLine : List Char → Except Shortfall (List Char × List Char)
  | '\r' :: '\n' :: rest => .ok ([], rest)
  | c :: rest => (takeWireLine rest).map fun (line, after) => (c :: line, after)
  | [] => .error .unfinished

/-- The first characters of a text that have `size` bytes together, and the text after them. -/
def takeBytes : Nat → List Char → Except Shortfall (List Char × List Char)
  | 0, s => .ok ([], s)
  | _, [] => .error .unfinished
  | size, c :: rest =>
    if c.utf8Size ≤ size then
      (takeBytes (size - c.utf8Size) rest).map fun (taken, after) => (c :: taken, after)
    else .error .malformed

/-- The text after the end of a line with nothing on it. -/
def takeLineEnd : List Char → Except Shortfall (List Char)
  | '\r' :: '\n' :: rest => .ok rest
  | [] | ['\r'] => .error .unfinished
  | _ => .error .malformed

/-- The fault that an error line signals: its first word and the rest. -/
def faultOfLine (line : List Char) : Fault :=
  let code := line.takeWhile (· ≠ ' ')
  let detail := match line.dropWhile (· ≠ ' ') with
    | ' ' :: rest => some (String.ofList rest)
    | _ => none
  .signalled (String.ofList code) detail

/-- The deepest nesting of arrays that is read. -/
def maxNesting : Nat := 100

/-- The number on a line; blanks around it do not count. -/
def numberOfLine (line : List Char) : Except Shortfall Int :=
  match (Text.signed? (Text.trimEnd (Text.trimStart line))).filter (fitsSigned 64) with
  | some n => .ok n
  | none => .error .malformed

/-- Whether a reply may start with a character. -/
def isForm (c : Char) : Bool := c = '+' || c = '-' || c = ':' || c = '$' || c = '*'

mutual

/-- The reply at the start of a text, and the text after it; arrays may be nested `depth` times. -/
def takeReply (depth : Nat) : List Char → Except Shortfall (Except Fault Reply × List Char)
  | [] => .error .unfinished
  | form :: rest => do
    -- The form is looked at before the line has ended.
    if !isForm form then throw .malformed
    let (line, after) ← takeWireLine rest
    match form with
    | '+' => return (.ok (.status (String.ofList line)), after)
    | '-' => return (.error (faultOfLine line), after)
    | ':' =>
      let n ← numberOfLine line
      return (.ok (.int n), after)
    | '$' =>
      let n ← numberOfLine line
      if n < 0 then return (.ok .nil, after)
      let (s, after) ← takeBytes n.toNat after
      let after ← takeLineEnd after
      return (.ok (.bulk (String.ofList s)), after)
    | _ =>
      match depth with
      | 0 => throw .malformed
      | depth + 1 =>
        let n ← numberOfLine line
        if n < 0 then return (.ok .nil, after)
        let (items, after) ← takeReplies depth n.toNat after
        return (items.map .array, after)
termination_by (depth, 0)

/-- Some replies in a row. An error ends the row: as the last of them it is the fault of all, before
that it leaves too few replies. -/
def takeReplies (depth : Nat) :
    Nat → List Char → Except Shortfall (Except Fault (List Reply) × List Char)
  | 0, s => .ok (.ok [], s)
  | count + 1, s => do
    match ← takeReply depth s with
    | (.ok first, s) =>
      let (more, after) ← takeReplies depth count s
      return (more.map (first :: ·), after)
    | (.error fault, s) => if count = 0 then return (.error fault, s) else throw .malformed
termination_by count => (depth, count + 1)

end

/-- Replies on their way, as text. -/
structure Replies where
  text : List Char

/-- The replies that a text holds one after another. The last of them may be unfinished. -/
def repliesOfText (text : List Char) : Replies := ⟨text⟩

/-! ## Writing replies -/

/-- The end of a line. -/
def lineEnd : List Char := ['\r', '\n']

mutual

/-- A reply as text. -/
def Reply.wireText : Reply → List Char
  | .nil => "$-1".toList ++ lineEnd
  | .int n => ':' :: (toString n).toList ++ lineEnd
  | .bulk s => '$' :: (toString s.utf8ByteSize).toList ++ lineEnd ++ s.toList ++ lineEnd
  | .status s => '+' :: s.toList ++ lineEnd
  | .array items => '*' :: (toString items.length).toList ++ lineEnd ++ wireTextOfItems items

/-- Replies in a row as text. -/
def wireTextOfItems : List Reply → List Char
  | [] => []
  | r :: rs => r.wireText ++ wireTextOfItems rs

end

/-- What a server sends: a reply, or the fault that it signals. It sends no other fault. -/
def wireText : Except Fault Reply → List Char
  | .ok reply => reply.wireText
  | .error (.signalled code detail) =>
    '-' :: code.toList ++ (detail.map fun d => ' ' :: d.toList).getD [] ++ lineEnd
  | .error _ => []

end Passcode.Redis
