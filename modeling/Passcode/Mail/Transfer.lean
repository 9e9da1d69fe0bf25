import Passcode.Mail.Header

/-!
# Transfer encodings

A body is sent as it is if it is ASCII text of short lines. Otherwise it is written in such text:
as *quoted-printable*, where a byte may be written as an equals sign and two digits, if most of it
is legible anyway, and in base 64 if not. A line that grows too long is then broken softly, by an
equals sign at its end.
-/

namespace Passcode.Mail

open Passcode.Text (base64 utf8Bytes)

/-- How a body is written for transfer. -/
inductive Transfer where
  | sevenBit
  | quotedPrintable
  | base64
deriving Repr, DecidableEq

/-- The name of an encoding. -/
def Transfer.name : Transfer → String
  | sevenBit => "7bit"
  | quotedPrintable => "quoted-printable"
  | base64 => "base64"

/-- Whether every line is shorter than the limit. A line counts with the line feed before it;
`length` is the length so far of the line at hand. -/
def hasShortLines (length : Nat) : List Char → Bool
  | [] => length < maxLine
  | '\n' :: s => length < maxLine && hasShortLines 1 s
  | c :: s => hasShortLines (length + c.utf8Size) s

/-- Whether a byte is legible: a tab, or a printable character of ASCII. -/
def isLegible (b : Nat) : Bool := b = 9 || (0x20 ≤ b && b ≤ 0x7e)

/-- The encoding for a body. -/
def Transfer.choose (s : List Char) : Transfer :=
  let bytes := utf8Bytes s
  if bytes.all (· < 0x80) && hasShortLines 0 s then .sevenBit
  else if (bytes.filter fun b => !isLegible b).length ≤ bytes.length / 3 then .quotedPrintable
  else .base64

/-- A text with a carriage return before every line feed. -/
def withLineEnds : List Char → List Char
  | [] => []
  | '\r' :: '\n' :: s => '\r' :: '\n' :: withLineEnds s
  | '\n' :: s => '\r' :: '\n' :: withLineEnds s
  | c :: s => c :: withLineEnds s

/-! ## Quoted-printable -/

/-- Text in quoted-printable that is being written: what can no longer change, the piece written
last, and the length of the last line. -/
structure QuotedLine where
  done : String
  last : List Char
  column : Nat

/-- A soft end of a line. -/
def softEnd : String := "=" ++ lineEnd

namespace QuotedLine

/-- Write a piece. If it does not fit, the line is broken before it, or one piece earlier if there
is no room for the mark of a soft end. -/
def append (w : QuotedLine) (piece : List Char) : QuotedLine :=
  let last := String.ofList w.last
  if w.column + piece.length ≤ maxLine then
    ⟨w.done ++ last, piece, w.column + piece.length⟩
  else if w.column = maxLine then
    ⟨w.done ++ softEnd ++ last, piece, w.last.length + piece.length⟩
  else ⟨w.done ++ last ++ softEnd, piece, piece.length⟩

/-- End the line. -/
def newLine (w : QuotedLine) : QuotedLine :=
  ⟨w.done ++ String.ofList w.last ++ lineEnd, [], 0⟩

/-- All that was written. -/
def finish (w : QuotedLine) : String := w.done ++ String.ofList w.last

end QuotedLine

/-- A digit of a byte. -/
def byteDigit (n : Nat) : Char := (Nat.digitChar n).toUpper

/-- A byte as an equals sign and two digits. -/
def quotedByte (b : Nat) : List Char := ['=', byteDigit (b / 16), byteDigit (b % 16)]

/-- The piece for a byte. A blank at the end of a line is quoted. -/
def quotedPiece (b : Nat) (endsLine : Bool) : List Char :=
  if (b = 9 || b = 0x20) && endsLine then quotedByte b
  else if isLegible b && b ≠ '='.toNat then [Char.ofNat b]
  else quotedByte b

/-- Whether the end of a line or of the whole comes next. -/
def isAtLineEnd : List Nat → Bool
  | [] => true
  | 13 :: 10 :: _ => true
  | _ => false

/-- Write bytes. -/
def QuotedLine.write (w : QuotedLine) : List Nat → QuotedLine
  | [] => w
  | 13 :: 10 :: bytes => w.newLine.write bytes
  | b :: bytes => (w.append (quotedPiece b (isAtLineEnd bytes))).write bytes

/-- Bytes in quoted-printable. -/
def quotedPrintable (bytes : List Nat) : String :=
  (QuotedLine.write ⟨"", [], 0⟩ bytes).finish

/-! ## Bodies -/

/-- A text in lines of a length; `count` is the room left on the line at hand. -/
def inLines (length : Nat) : Nat → List Char → List Char
  | _, [] => []
  | 0, c :: s => '\r' :: '\n' :: c :: inLines length (length - 1) s
  | count + 1, c :: s => c :: inLines length count s

/-- A body as it is transferred. -/
def Transfer.encode (t : Transfer) (s : List Char) : String :=
  let s := withLineEnds s
  match t with
  | .sevenBit => String.ofList s
  | .quotedPrintable => Mail.quotedPrintable (utf8Bytes s)
  | .base64 => String.ofList (inLines maxLine maxLine (Text.base64 (utf8Bytes s)))

end Passcode.Mail
