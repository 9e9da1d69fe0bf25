/-!
# Powers and the widths of integers

Powers of two and of ten, and the integers of a width: a signed integer of `bits` bits runs from
`-2 ^ (bits - 1)` to `2 ^ (bits - 1) - 1`.
-/

namespace Passcode

/-- The `n`-th power of two. -/
def twoTo (n : Nat) : Nat := Nat.pow 2 n

/-- The `n`-th power of ten. -/
def tenTo (n : Nat) : Nat := Nat.pow 10 n

@[simp] theorem twoTo_zero : twoTo 0 = 1 := rfl

@[simp] theorem tenTo_zero : tenTo 0 = 1 := rfl

theorem twoTo_succ (n : Nat) : twoTo (n + 1) = twoTo n * 2 := rfl

theorem tenTo_succ (n : Nat) : tenTo (n + 1) = tenTo n * 10 := rfl

theorem twoTo_pos (n : Nat) : 0 < twoTo n := Nat.pow_pos (by decide)

theorem tenTo_pos (n : Nat) : 0 < tenTo n := Nat.pow_pos (by decide)

/-- The largest signed integer of a width. -/
def maxSigned (bits : Nat) : Int := twoTo (bits - 1) - 1

/-- Whether an integer is a signed integer of a width. -/
def fitsSigned (bits : Nat) (n : Int) : Bool := -1 - maxSigned bits ≤ n && n ≤ maxSigned bits

end Passcode
