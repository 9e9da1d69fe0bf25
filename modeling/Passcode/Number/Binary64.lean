import Passcode.Number.Power

/-!
# Binary floating point of 64 bits

Numbers with a fraction or an exponent are kept as the nearest binary number of 53 significant
bits. Everything here is exact arithmetic on naturals: a result is the quotient of two naturals,
and `Binary64.ofQuotient` rounds that quotient once, to the nearest representable number and on a
tie to the even one. So products, quotients and decimal literals all round in the same place.

## Main definitions

* `Binary64` — a sign, a mantissa below `2 ^ 53` and an exponent, or an infinity, or not a number
* `Binary64.ofQuotient` — the rounding
* `Binary64.ofDecimal` — the value of a decimal literal
* `Binary64.roundHalfAway` — the nearest integer, a half going away from zero
-/

namespace Passcode.Number

/-- A floating point number: `± mantissa * 2 ^ exponent`, an infinity, or not a number. -/
inductive Binary64 where
  | finite (negative : Bool) (mantissa : Nat) (exponent : Int)
  | infinite (negative : Bool)
  | nan
deriving Repr, DecidableEq, Inhabited

namespace Binary64

/-- The smallest exponent of a representable number. -/
def minExponent : Int := -1074

/-- The largest exponent of a representable number. -/
def maxExponent : Int := 971

/-- The quotient of two naturals rounded to a natural, a tie going to the even neighbour. -/
def divToEven (num den : Nat) : Nat :=
  let floor := num / den
  let twice := 2 * (num % den)
  if twice < den then floor
  else if twice > den then floor + 1
  else if floor % 2 = 0 then floor else floor + 1

/-- `num / den / 2 ^ exponent` as a quotient of naturals. -/
def scaled (num den : Nat) (exponent : Int) : Nat × Nat :=
  if 0 ≤ exponent then (num, den * twoTo exponent.toNat) else (num * twoTo (-exponent).toNat, den)

/-- Zero with a sign. -/
def zero (negative : Bool) : Binary64 := .finite negative 0 minExponent

/-- The representable number nearest to `± num / den`. -/
def ofQuotient (negative : Bool) (num den : Nat) : Binary64 :=
  if num = 0 || den = 0 then zero negative
  else
    let guess : Int := max minExponent ((num.log2 : Int) - den.log2 - 53)
    let (a, b) := scaled num den guess
    let exponent := if a / b < twoTo 53 then guess else guess + 1
    let (a, b) := scaled num den exponent
    let mantissa := divToEven a b
    let (mantissa, exponent) :=
      if mantissa = twoTo 53 then (twoTo 52, exponent + 1) else (mantissa, exponent)
    if exponent > maxExponent then .infinite negative else .finite negative mantissa exponent

/-- The representable number nearest to a natural. -/
def ofNat (n : Nat) : Binary64 := ofQuotient false n 1

/-- The absolute value of a finite number as a quotient of naturals. -/
def magnitude (mantissa : Nat) (exponent : Int) : Nat × Nat :=
  if 0 ≤ exponent then (mantissa * twoTo exponent.toNat, 1) else (mantissa, twoTo (-exponent).toNat)

/-- The number with the other sign. -/
def neg : Binary64 → Binary64
  | .finite s m e => .finite (!s) m e
  | .infinite s => .infinite (!s)
  | .nan => .nan

/-- The rounded product. -/
def mul : Binary64 → Binary64 → Binary64
  | .finite s m e, .finite t n f =>
    let (a, b) := magnitude m e
    let (c, d) := magnitude n f
    ofQuotient (s != t) (a * c) (b * d)
  | .nan, _ | _, .nan => .nan
  | .infinite s, .finite t n _ | .finite t n _, .infinite s =>
    if n = 0 then .nan else .infinite (s != t)
  | .infinite s, .infinite t => .infinite (s != t)

/-- The rounded quotient. -/
def div : Binary64 → Binary64 → Binary64
  | .finite s m e, .finite t n f =>
    if n = 0 then (if m = 0 then .nan else .infinite (s != t))
    else
      let (a, b) := magnitude m e
      let (c, d) := magnitude n f
      ofQuotient (s != t) (a * d) (b * c)
  | .nan, _ | _, .nan => .nan
  | .infinite s, .finite t _ _ => .infinite (s != t)
  | .finite s _ _, .infinite t => zero (s != t)
  | .infinite _, .infinite _ => .nan

/-- Whether the number is plus or minus zero. -/
def isZero : Binary64 → Bool
  | .finite _ m _ => m == 0
  | _ => false

/-- Whether the number is an infinity. -/
def isInfinite : Binary64 → Bool
  | .infinite _ => true
  | _ => false

/-- Beyond this power of ten every non-zero literal of the given digits is infinite, and below its
negative every literal is zero, so no power needs to be computed there. -/
def hugePower (digits : Nat) : Nat := 400 + digits

/-- The value of the literal `± digits * 10 ^ exponent`, where `digits` has `count` digits. -/
def ofDecimal (negative : Bool) (digits count : Nat) (exponent : Int) : Binary64 :=
  if digits = 0 then zero negative
  else if exponent > hugePower count then .infinite negative
  else if exponent < -(hugePower count : Int) then zero negative
  else if 0 ≤ exponent then ofQuotient negative (digits * tenTo exponent.toNat) 1
  else ofQuotient negative digits (tenTo (-exponent).toNat)

/-- The power of ten `10 ^ n`, rounded. -/
def tenPower (n : Nat) : Binary64 := ofQuotient false (tenTo n) 1

/-- The integer nearest to a finite number, a half going away from zero. -/
def roundHalfAway (negative : Bool) (mantissa : Nat) (exponent : Int) : Int :=
  let (a, b) := magnitude mantissa exponent
  let n := (2 * a + b) / (2 * b)
  if negative then -(n : Int) else n

/-- The nearest integer between `lo` and `hi`: values outside go to the nearer bound, and what is
not a number goes to zero. -/
def saturate (lo hi : Int) : Binary64 → Int
  | .finite s m e => max lo (min hi (roundHalfAway s m e))
  | .infinite true => lo
  | .infinite false => hi
  | .nan => 0

end Binary64

end Passcode.Number
