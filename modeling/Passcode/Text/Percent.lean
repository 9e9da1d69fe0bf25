import Passcode.Text.Numeral
import Passcode.Text.Utf8

/-!
# Percent-encoded text

In addresses a percent sign and two hexadecimal digits stand for a byte. `decodeWhere` decodes the
bytes that a caller allows and leaves everything else as it stands.
-/

namespace Passcode.Text

/-- The bytes of a text, with the encoded bytes that `allowed` admits decoded. -/
def percentBytes (allowed : Nat → Bool) : List Char → List Nat
  | '%' :: a :: b :: rest =>
    match hexDigit? a, hexDigit? b with
    | some x, some y =>
      if allowed (16 * x + y) then (16 * x + y) :: percentBytes allowed rest
      else '%'.toNat :: a.toNat :: b.toNat :: percentBytes allowed rest
    | _, _ => '%'.toNat :: percentBytes allowed (a :: b :: rest)
  | c :: rest => encodeUtf8 c ++ percentBytes allowed rest
  | [] => []

/-- A text with the encoded bytes that `allowed` admits decoded; bytes that are no text become
replacement characters. -/
def decodeWhere (allowed : Nat → Bool) (s : List Char) : List Char :=
  (decodeUtf8 (percentBytes allowed s)).map fun c => c.getD '\ufffd'

/-- The value of a form field: plus signs are blanks and every encoded byte is decoded. -/
def decodeForm (s : List Char) : List Char :=
  decodeWhere (fun _ => true) (s.map fun c => if c = '+' then ' ' else c)

end Passcode.Text
