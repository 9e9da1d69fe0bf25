import Passcode.Text.Ranges

/-!
# White space

The Unicode property `White_Space`, and trimming by it.
-/

namespace Passcode.Text

/-- The code points with the Unicode property `White_Space`. -/
def blankRanges : CharRanges :=
  [
   (0x9, 0xd), (0x20, 0x20), (0x85, 0x85), (0xa0, 0xa0), (0x1680, 0x1680), (0x2000, 0x200a),
   (0x2028, 0x2029), (0x202f, 0x202f), (0x205f, 0x205f), (0x3000, 0x3000)]

/-- Whether a character is Unicode white space. -/
def isBlank (c : Char) : Bool := blankRanges.holds c

/-- Drop the white space before a text. -/
def trimStart (s : List Char) : List Char := s.dropWhile isBlank

/-- Drop the white space after a text. -/
def trimEnd (s : List Char) : List Char := (s.reverse.dropWhile isBlank).reverse

/-- Drop the white space around a text. -/
def trim (s : String) : String := String.ofList (trimEnd (trimStart s.toList))

end Passcode.Text
