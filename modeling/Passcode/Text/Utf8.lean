/-!
# Text as bytes

UTF-8 in both directions. Decoding gives one result per character, and `none` where bytes belong to
no character: for the start of a character that is not finished, or for a single byte.
-/

namespace Passcode.Text

/-- The bytes of a character. -/
def encodeUtf8 (c : Char) : List Nat :=
  let n := c.toNat
  if n < 0x80 then [n]
  else if n < 0x800 then [0xc0 + n / 64, 0x80 + n % 64]
  else if n < 0x10000 then [0xe0 + n / 4096, 0x80 + n / 64 % 64, 0x80 + n % 64]
  else [0xf0 + n / 262144, 0x80 + n / 4096 % 64, 0x80 + n / 64 % 64, 0x80 + n % 64]

/-- The bytes of a text. -/
def utf8Bytes (s : List Char) : List Nat := s.flatMap encodeUtf8

/-- Whether a byte continues a character. -/
def isContinuation (b : Nat) : Bool := 0x80 ≤ b && b < 0xc0

/-- The character at the start of a row of bytes, and how many bytes it takes. -/
def firstChar? : List Nat → Option (Char × Nat)
  | a :: rest =>
    if a < 0x80 then some (Char.ofNat a, 1)
    else
      match rest with
      | b :: rest =>
        if !isContinuation b then none
        else if 0xc2 ≤ a && a < 0xe0 then some (Char.ofNat ((a - 0xc0) * 64 + (b - 0x80)), 2)
        else
          match rest with
          | c :: rest =>
            if !isContinuation c then none
            else if 0xe0 ≤ a && a < 0xf0 then
              let n := (a - 0xe0) * 4096 + (b - 0x80) * 64 + (c - 0x80)
              if 0x800 ≤ n && n.isValidChar then some (Char.ofNat n, 3) else none
            else
              match rest with
              | d :: _ =>
                let n := (a - 0xf0) * 262144 + (b - 0x80) * 4096 + (c - 0x80) * 64 + (d - 0x80)
                if isContinuation d && 0xf0 ≤ a && 0x10000 ≤ n && n < 0x110000 then
                  some (Char.ofNat n, 4)
                else none
              | [] => none
          | [] => none
      | [] => none
  | [] => none

/-- The least and the greatest byte that may follow the first byte of a character. -/
def secondBytes (first : Nat) : Nat × Nat :=
  if first = 0xe0 then (0xa0, 0xbf)
  else if first = 0xed then (0x80, 0x9f)
  else if first = 0xf0 then (0x90, 0xbf)
  else if first = 0xf4 then (0x80, 0x8f)
  else (0x80, 0xbf)

/-- How many bytes at the start of a row that starts with no character belong together: those that
could start a character, at least one. -/
def strayLength : List Nat → Nat
  | a :: b :: rest =>
    let (least, greatest) := secondBytes a
    if 0xc2 ≤ a && a < 0xf5 && least ≤ b && b ≤ greatest then
      match rest with
      | c :: _ => if 0xf0 ≤ a && isContinuation c then 3 else 2
      | [] => 2
    else 1
  | _ => 1

/-- Decode at most `fuel` characters and stray rows of bytes. -/
def decodeFrom : Nat → List Nat → List (Option Char)
  | 0, _ => []
  | _, [] => []
  | fuel + 1, b :: bytes =>
    match firstChar? (b :: bytes) with
    | some (c, size) => some c :: decodeFrom fuel ((b :: bytes).drop size)
    | none => none :: decodeFrom fuel ((b :: bytes).drop (strayLength (b :: bytes)))

/-- The characters of a row of bytes. -/
def decodeUtf8 (bytes : List Nat) : List (Option Char) := decodeFrom bytes.length bytes

/-- The text that a row of bytes is, if all of them belong to characters. -/
def textOfBytes? (bytes : List Nat) : Option String :=
  let cs := decodeUtf8 bytes
  if cs.all Option.isSome then some (String.ofList (cs.filterMap id)) else none

end Passcode.Text
