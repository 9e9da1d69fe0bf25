/-!
# Verification codes

A code is a number of six decimal digits without a leading zero, so its text always has six
characters. Codes are only made from a draw, a number below the count of codes, which is how a
source of randomness enters the program.
-/

namespace Passcode

/-- A code of six digits. -/
structure Code where
  value : Nat
  lower : 100000 ≤ value
  upper : value ≤ 999999
deriving DecidableEq, Repr

namespace Code

/-- The smallest code. -/
def min : Nat := 100000

/-- The largest code. -/
def max : Nat := 999999

/-- The number of digits of a code. -/
def length : Nat := 6

/-- The number of codes. -/
def count : Nat := 900000

/-- The code for a draw. Equally likely draws below `count` give equally likely codes. -/
def ofDraw (draw : Nat) : Code where
  value := min + draw % count
  lower := by simp [min]
  upper := by
    have := Nat.mod_lt draw (show count > 0 by decide)
    simp only [min, count] at *
    omega

instance : Inhabited Code := ⟨ofDraw 0⟩

/-- The decimal digits of a code. -/
def text (c : Code) : String := String.ofList (Nat.toDigits 10 c.value)

end Code

end Passcode
