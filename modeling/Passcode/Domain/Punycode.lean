import Passcode.Text.Split

/-!
# Labels in ASCII

A label with characters outside ASCII is carried by one within it, in the code named Punycode. The
ASCII characters come first, and then, after a hyphen, one number for every other character. The
numbers tell, in the order of the code points, how far it is to the next character: counted is every
place of the label so far, for every code point on the way. A number is written in digits of base
36, the lowest first; its last digit is the first one below a threshold, and the thresholds adapt to
the numbers before.
-/

namespace Passcode.Domain

/-- The base of the digits. -/
def base : Nat := 36

/-- The value of a digit: the letters, of either case, and then the digits. -/
def digitOf? (c : Char) : Option Nat :=
  if 'a' ≤ c && c ≤ 'z' then some (c.toNat - 'a'.toNat)
  else if 'A' ≤ c && c ≤ 'Z' then some (c.toNat - 'A'.toNat)
  else if '0' ≤ c && c ≤ '9' then some (c.toNat - '0'.toNat + 26)
  else none

/-- The digit with a value. -/
def digitChar (d : Nat) : Char :=
  if d < 26 then Char.ofNat ('a'.toNat + d) else Char.ofNat ('0'.toNat + d - 26)

/-- The least value of a digit that is not the last of its number, if `place` counts the digits in
steps of `base`. -/
def threshold (bias place : Nat) : Nat := min 26 (max 1 (place - bias))

theorem threshold_pos (bias place : Nat) : 1 ≤ threshold bias place := by
  unfold threshold; omega

/-- The bias of the first number. -/
def initialBias : Nat := 72

/-- The first code point outside ASCII. -/
def initialCode : Nat := 0x80

/-- The bias that fits numbers around `n`. -/
def biasOf (place n : Nat) : Nat :=
  if n > 455 then biasOf (place + base) (n / 35) else place + base * n / (n + 38)
termination_by n
decreasing_by omega

/-- The bias after a number, in a label that has `count` characters with the one it stands for. -/
def nextBias (n count : Nat) (isFirst : Bool) : Nat :=
  let n := if isFirst then n / 700 else n / 2
  biasOf 0 (n + n / count)

/-! ## Writing -/

/-- The digits of a number from some place on. -/
def digits (bias place n : Nat) : List Char :=
  let t := threshold bias place
  if n < t then [digitChar n]
  else digitChar (t + (n - t) % (base - t)) :: digits bias (place + base) ((n - t) / (base - t))
termination_by n
decreasing_by
  have := threshold_pos bias place
  exact Nat.lt_of_le_of_lt (Nat.div_le_self _ _) (by omega)

/-- The numbers of a label that are being written: their digits so far, the distance since the last
number, the bias, and how many characters of the label are done. -/
structure Numbers where
  digits : List Char
  distance : Nat
  bias : Nat
  done : Nat
deriving Repr, DecidableEq

/-- Pass a character of the label on the way through all places for the code point `code`. -/
def Numbers.pass (basic code : Nat) (w : Numbers) (c : Char) : Numbers :=
  if c.toNat < code then { w with distance := w.distance + 1 }
  else if c.toNat = code then
    { digits := w.digits ++ Domain.digits w.bias base w.distance
      distance := 0
      bias := nextBias w.distance (w.done + 1) (w.done == basic)
      done := w.done + 1 }
  else w

/-- Write the numbers for some code points, which are in order and from `next` on. -/
def Numbers.write (label : List Char) (basic : Nat) (w : Numbers) (next : Nat) :
    List Nat → Numbers
  | [] => w
  | code :: codes =>
    let w := { w with distance := w.distance + (code - next) * (w.done + 1) }
    let w := label.foldl (Numbers.pass basic code) w
    Numbers.write label basic { w with distance := w.distance + 1 } (code + 1) codes

/-- Whether a character is in ASCII. -/
def isAscii (c : Char) : Bool := c.toNat < initialCode

/-- A number put among numbers that are in order and distinct. -/
def insertCode (n : Nat) : List Nat → List Nat
  | [] => [n]
  | m :: ms => if n < m then n :: m :: ms else if n = m then m :: ms else m :: insertCode n ms

/-- A label in ASCII that carries a label. -/
def punycode (label : List Char) : List Char :=
  let basic := label.filter isAscii
  let codes := (label.filter fun c => !isAscii c).foldr (fun c => insertCode c.toNat) []
  let w := Numbers.write label basic.length ⟨[], 0, initialBias, basic.length⟩ initialCode codes
  basic ++ (if basic = [] then [] else ['-']) ++ w.digits

/-! ## Reading -/

/-- A number from some place on, added to `n`, and the text after it. `weight` is what a digit of
this place counts. -/
def number? (bias place weight n : Nat) : List Char → Option (Nat × List Char)
  | [] => none
  | c :: rest => do
    let d ← digitOf? c
    let t := threshold bias place
    if d < t then return (n + d * weight, rest)
    else number? bias (place + base) (weight * (base - t)) (n + d * weight) rest

theorem length_number? {bias place weight n m : Nat} {s rest : List Char}
    (h : number? bias place weight n s = some (m, rest)) : rest.length < s.length := by
  induction s generalizing place weight n with
  | nil => simp [number?] at h
  | cons c s ih =>
    simp only [number?, Option.bind_eq_bind, Option.bind_eq_some_iff] at h
    obtain ⟨d, -, h⟩ := h
    split at h
    · simp_all
    · exact Nat.lt_succ_of_lt (ih h)

/-- Put the characters that numbers stand for into a label. `place` is where in the label the last
one went, and `code` its code point. -/
def insertAll (bias code place : Nat) (label s : List Char) : Option (List Char) :=
  match s with
  | [] => some label
  | c :: cs =>
    match _h : number? bias base 1 place (c :: cs) with
    | none => none
    | some (n, rest) =>
      let count := label.length + 1
      let code := code + n / count
      if code.isValidChar then
        insertAll (nextBias (n - place) count (place == 0)) code (n % count + 1)
          (label.insertIdx (n % count) (Char.ofNat code)) rest
      else none
termination_by s.length
decreasing_by exact length_number? _h

/-- The label that a label in ASCII carries. -/
def ofPunycode? (s : List Char) : Option (List Char) :=
  let (basic, numbers) := (Text.splitAtLast '-' s).getD ([], s)
  if s.all isAscii then insertAll initialBias initialCode 0 basic numbers else none

end Passcode.Domain
