import Passcode.Number.Power

/-!
# Identifiers of messages

Every message that leaves the program has an identifier of 128 bits in the usual layout of 32
hexadecimal digits. Identifiers are random; like codes they are made from a draw.
-/

namespace Passcode

/-- The lower `count` hexadecimal digits of a number. -/
def hexPadded (count n : Nat) : List Char :=
  let ds := Nat.toDigits 16 (n % twoTo (4 * count))
  List.replicate (count - ds.length) '0' ++ ds

/-- The identifier for a draw of 122 bits; six further bits say that it is random. -/
def identifierOfDraw (draw : Nat) : String :=
  let low := draw
  let mid := draw / twoTo 62
  let high := draw / twoTo 74
  String.ofList <|
    hexPadded 8 (high / twoTo 16) ++ '-' :: hexPadded 4 high ++ '-' :: '4' :: hexPadded 3 mid
      ++ '-' :: hexPadded 4 (twoTo 15 + low / twoTo 48 % twoTo 14) ++ '-' :: hexPadded 12 low

/-- The identifier of a message that was only logged. -/
def mockIdentifier (draw : Nat) : String := "mock_" ++ identifierOfDraw draw

end Passcode
