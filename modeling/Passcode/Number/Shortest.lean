import Passcode.Number.Binary64

/-!
# The shortest decimal of a floating point number

Among the decimals that round back to a number, the text of the number is the one with the fewest
digits, and of those the nearest. For each count of digits only two candidates matter, the
neighbours of the number on the decimal grid of that count, and they are compared with the ends of
the rounding interval in exact arithmetic.

The digits carry no layout. `Decimal.plain` writes them without an exponent,
`Decimal.scientific` with one where the number is very large or very small.
-/

namespace Passcode.Number

/-- The decimal `0.d₁d₂… * 10 ^ point` with digits `d₁d₂…`, the first and last of them not zero;
no digits for zero. -/
structure Decimal where
  digits : List Char
  point : Int
deriving Repr, DecidableEq

namespace Decimal

/-- `num / den` compared with powers of ten: the `p` with `10 ^ (p - 1) ≤ num / den < 10 ^ p`,
searched downward from `start` for at most `fuel` steps. -/
def pointOf (num den : Nat) : Nat → Int → Int
  | 0, start => start
  | fuel + 1, start =>
    let below := start - 1
    let reached :=
      if 0 ≤ below then den * tenTo below.toNat ≤ num else den ≤ num * tenTo (-below).toNat
    if reached then start else pointOf num den fuel below

/-- The interval of numbers that round to `mantissa * 2 ^ exponent`, in units of
`2 ^ (exponent - 2)`. -/
def interval (mantissa : Nat) (exponent : Int) : Nat × Nat :=
  let low := if mantissa = twoTo 52 ∧ exponent > Binary64.minExponent
    then 4 * mantissa - 1 else 4 * mantissa - 2
  (low, 4 * mantissa + 2)

/-- The numerator and denominator of `n * 2 ^ e`. -/
def scale (n : Nat) (e : Int) : Nat × Nat :=
  if 0 ≤ e then (n * twoTo e.toNat, 1) else (n, twoTo (-e).toNat)

/-- Whether `candidate * 10 ^ grid` lies in the rounding interval of the number. -/
def readsBack (mantissa : Nat) (exponent : Int) (candidate : Nat) (grid : Int) : Bool :=
  let (low, high) := interval mantissa exponent
  let (lowNum, den) := scale low (exponent - 2)
  let (highNum, _) := scale high (exponent - 2)
  let (num, factor) :=
    if 0 ≤ grid then (candidate * tenTo grid.toNat * den, 1)
    else (candidate * den, tenTo (-grid).toNat)
  if mantissa % 2 = 0 then lowNum * factor ≤ num && num ≤ highNum * factor
  else lowNum * factor < num && num < highNum * factor

/-- The nearest grid neighbour that reads back, for one spacing of the decimal grid. -/
def candidate? (mantissa : Nat) (exponent : Int) (grid : Int) : Option Nat :=
  let (num, den) := scale mantissa exponent
  let (num, den) :=
    if 0 ≤ grid then (num, den * tenTo grid.toNat) else (num * tenTo (-grid).toNat, den)
  let floor := num / den
  let below := readsBack mantissa exponent floor grid
  let above := readsBack mantissa exponent (floor + 1) grid
  let nearer := if 2 * (num % den) < den then floor
    else if 2 * (num % den) > den then floor + 1
    else if floor % 2 = 0 then floor else floor + 1
  match below, above with
  | true, true => some nearer
  | true, false => some floor
  | false, true => some (floor + 1)
  | false, false => none

/-- Try grids of `tried`, `tried + 1`, … digits. -/
def search (mantissa : Nat) (exponent point : Int) : Nat → Nat → Nat × Int
  | 0, _ => (0, 0)
  | fuel + 1, tried =>
    match candidate? mantissa exponent (point - tried) with
    | some n => (n, point - tried)
    | none => search mantissa exponent point fuel (tried + 1)

/-- Drop the zeros at the end of a digit row. -/
def stripZeros (ds : List Char) : List Char := (ds.reverse.dropWhile (· == '0')).reverse

/-- The shortest decimal that reads back as `mantissa * 2 ^ exponent`. -/
def shortest (mantissa : Nat) (exponent : Int) : Decimal :=
  if mantissa = 0 then ⟨[], 0⟩
  else
    let (num, den) := scale mantissa exponent
    let start : Int := if num ≥ den then (num / den).log2 / 3 + 2 else 1
    let point := pointOf num den 800 start
    let (n, grid) := search mantissa exponent point 18 1
    let ds := Nat.toDigits 10 n
    ⟨stripZeros ds, ds.length + grid⟩

/-- A row of `n` zeros. -/
def zeros (n : Nat) : List Char := List.replicate n '0'

/-- The decimal without exponent, and without point where it is whole. -/
def plain (d : Decimal) : List Char :=
  if d.digits = [] then ['0']
  else if d.point ≤ 0 then ['0', '.'] ++ zeros (-d.point).toNat ++ d.digits
  else
    let whole := d.point.toNat
    if d.digits.length ≤ whole then d.digits ++ zeros (whole - d.digits.length)
    else d.digits.take whole ++ '.' :: d.digits.drop whole

/-- The decimal with a point or an exponent: from `0.00001` up to sixteen whole digits in full,
otherwise as `d.ddd` with a signed exponent of at least two digits. -/
def scientific (d : Decimal) : List Char :=
  let exponent := d.point - 1
  if d.digits = [] then ['0', '.', '0']
  else if -5 ≤ exponent && exponent ≤ 15 then
    let text := plain d
    if text.contains '.' then text else text ++ ['.', '0']
  else
    let size := Nat.toDigits 10 exponent.natAbs
    let mantissa := match d.digits with
      | [] => []
      | [c] => [c]
      | c :: rest => c :: '.' :: rest
    mantissa ++ ['e', if exponent < 0 then '-' else '+'] ++ zeros (2 - size.length) ++ size

end Decimal

namespace Binary64

/-- The text of a number with a layout for the digits. -/
def textWith (layout : Decimal → List Char) : Binary64 → String
  | .finite negative m e =>
    String.ofList ((if negative then ['-'] else []) ++ layout (Decimal.shortest m e))
  | .infinite negative => if negative then "-inf" else "inf"
  | .nan => "NaN"

/-- The text of a number without exponent: `0.1`, `100000`, `inf`, `NaN`. -/
def plainText (x : Binary64) : String := x.textWith Decimal.plain

/-- The text of a number that always shows it is no integer: `1.0`, `1e+22`. -/
def scientificText (x : Binary64) : String := x.textWith Decimal.scientific

end Binary64

end Passcode.Number
