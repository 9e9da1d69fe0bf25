/-!
# JSON values and their text

What the program itself writes: values with whole numbers only, objects in the order of their
members, and a compact text. Quotes, backslashes and control characters are escaped, everything
else is written as it is.
-/

namespace Passcode.Json

/-- A JSON value as the program writes it. -/
inductive Value where
  | null
  | bool (b : Bool)
  | int (n : Int)
  | string (s : String)
  | array (items : List Value)
  | object (members : List (String × Value))
deriving Repr, Inhabited

/-- A digit of a number in base sixteen. -/
def hexDigit (n : Nat) : Char :=
  if n < 10 then Char.ofNat ('0'.toNat + n) else Char.ofNat ('a'.toNat + (n - 10))

/-- One character inside a string literal. -/
def escape (c : Char) : List Char :=
  if c = '"' then ['\\', '"']
  else if c = '\\' then ['\\', '\\']
  else if c = '\x08' then ['\\', 'b']
  else if c = '\x0c' then ['\\', 'f']
  else if c = '\n' then ['\\', 'n']
  else if c = '\r' then ['\\', 'r']
  else if c = '\t' then ['\\', 't']
  else if c < ' ' then ['\\', 'u', '0', '0', hexDigit (c.toNat / 16), hexDigit (c.toNat % 16)]
  else [c]

/-- A string literal. -/
def literal (s : String) : List Char := '"' :: (s.toList.flatMap escape ++ ['"'])

/-- The digits of an integer. -/
def integer (n : Int) : List Char :=
  if n < 0 then '-' :: Nat.toDigits 10 n.natAbs else Nat.toDigits 10 n.natAbs

mutual

/-- The compact text of a value. -/
def Value.chars : Value → List Char
  | .null => ['n', 'u', 'l', 'l']
  | .bool true => ['t', 'r', 'u', 'e']
  | .bool false => ['f', 'a', 'l', 's', 'e']
  | .int n => integer n
  | .string s => literal s
  | .array items => '[' :: (itemChars items ++ [']'])
  | .object members => '\x7b' :: (memberChars members ++ ['\x7d'])

/-- Items with commas between them. -/
def itemChars : List Value → List Char
  | [] => []
  | [v] => v.chars
  | v :: vs => v.chars ++ ',' :: itemChars vs

/-- Members with commas between them. -/
def memberChars : List (String × Value) → List Char
  | [] => []
  | [(k, v)] => literal k ++ ':' :: v.chars
  | (k, v) :: ms => literal k ++ ':' :: (v.chars ++ ',' :: memberChars ms)

end

/-- The compact text of a value. -/
def Value.render (v : Value) : String := String.ofList v.chars

/-- A text, or `null` where there is none. -/
def Value.ofOption (s : Option String) : Value := (s.map Value.string).getD .null

end Passcode.Json
