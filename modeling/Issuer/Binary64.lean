import Issuer.Text.Basic
/-!
# Binary floating point numbers of 64 bits

A number with a fraction or an exponent is read to the nearest binary64 number and written with
the fewest digits that read back to it.  Everything here is exact arithmetic on natural numbers;
no machine operation is involved.
-/
namespace Issuer

/-- A binary64 number.  A finite one is `± significand · 2 ^ exponent`, in its canonical form:
the significand is below `2 ^ 53` and at least `2 ^ 52` unless the exponent is the least,
`-1074`. -/
inductive Binary64 where
  | nan
  | infinite (negative : Bool)
  | finite (negative : Bool) (significand : Nat) (exponent : Int)
  deriving DecidableEq, Repr

namespace Binary64

/-- The least significand of a number in full precision, `2 ^ 52`. -/
def leastNormal : Nat := 0x10000000000000

/-- `2 ^ e` as a numerator and a denominator. -/
def powerOfTwo (e : Int) : Nat × Nat := (Nat.pow 2 e.toNat, Nat.pow 2 (-e).toNat)

/-- `10 ^ e` as a numerator and a denominator. -/
def powerOfTen (e : Int) : Nat × Nat := (Nat.pow 10 e.toNat, Nat.pow 10 (-e).toNat)

/-- The quotient rounded to the nearest natural number, a tie to the even one. -/
def roundDiv (num den : Nat) : Nat :=
  let q := num / den
  let twice := 2 * (num % den)
  if twice < den then q else if den < twice then q + 1 else q + q % 2

/-- The exponent of the highest power of two that is at most `num / den`. -/
def floorLog2 (num den : Nat) : Int :=
  let k : Int := (num.log2 : Int) - (den.log2 : Int)
  let (up, down) := powerOfTwo k
  if den * up ≤ num * down then k else k - 1

/-- The binary64 number nearest to `± num / den`, a tie going to the even significand. -/
def ofRatio (negative : Bool) (num den : Nat) : Binary64 :=
  if num = 0 then finite negative 0 (-1074)
  else
    let exponent := max (-1074) (floorLog2 num den - 52)
    let (up, down) := powerOfTwo exponent
    let significand := roundDiv (num * down) (den * up)
    let (significand, exponent) :=
      if significand = 2 * leastNormal then (leastNormal, exponent + 1) else (significand, exponent)
    if 971 < exponent then infinite negative else finite negative significand exponent

/-- The binary64 number nearest to `± digits · 10 ^ exponent`, where `digits` has `length`
decimal digits.  Powers that are out of range whatever the digits are not computed. -/
def ofDecimal (negative : Bool) (digits length : Nat) (exponent : Int) : Binary64 :=
  if digits = 0 || length + exponent < -330 then finite negative 0 (-1074)
  else if 330 < exponent then infinite negative
  else
    let (up, down) := powerOfTen exponent
    ofRatio negative (digits * up) down

def isIntegral : Binary64 → Bool
  | finite _ m e => 0 ≤ e || m % Nat.pow 2 (-e).toNat == 0
  | _ => false

def isNegative : Binary64 → Bool
  | finite negative m _ => negative && m != 0
  | infinite negative => negative
  | nan => false

def isZero : Binary64 → Bool
  | finite _ m _ => m == 0
  | _ => false

def compareInt (negative : Bool) (m : Nat) (e : Int) (n : Int) : Ordering :=
  let (up, down) := powerOfTwo e
  let lhs : Int := if negative then -((m * up : Nat) : Int) else (m * up : Nat)
  compare lhs (n * down)

/-- Compares two numbers; `none` if one of them is not a number. -/
def compare? : Binary64 → Binary64 → Option Ordering
  | nan, _ => none
  | _, nan => none
  | infinite a, infinite b => some (compare (!a) (!b))
  | infinite a, finite .. => some (if a then .lt else .gt)
  | finite .., infinite b => some (if b then .gt else .lt)
  | finite a m e, finite b n f =>
    let shift := min e f
    let lhs : Int := (m * Nat.pow 2 (e - shift).toNat : Nat)
    let rhs : Int := (n * Nat.pow 2 (f - shift).toNat : Nat)
    some (compare (if a then -lhs else lhs) (if b then -rhs else rhs))

/-! ## The shortest text -/

/-- The number of decimal digits of a natural number; zero has none. -/
def digitCount (n : Nat) : Nat := if n = 0 then 0 else (Text.ofNat n).length

/-- The exponent of the highest power of ten that is at most `num / den`, which is below one;
`fuel` bounds the search. -/
def smallDecimalExponent (den : Nat) : Nat → Nat → Int
  | 0, _ => 0
  | fuel + 1, num => if den ≤ 10 * num then -1 else smallDecimalExponent den fuel (10 * num) - 1

/-- The exponent of the first significant digit of `num / den`. -/
def decimalExponent (num den : Nat) : Int :=
  if den ≤ num then (digitCount (num / den) : Int) - 1 else smallDecimalExponent den 400 num

/-- A positive number's interval of rounding in quarters of its last place: all reals between
`low` and `high` read back to it, the ends included if `closed`. -/
structure Interval where
  low : Nat
  value : Nat
  high : Nat
  closed : Bool

/-- The reals that read back to `significand · 2 ^ exponent`.  Below a power of two the numbers
lie closer together. -/
def interval (significand : Nat) (exponent : Int) : Interval where
  low := 4 * significand - (if significand = leastNormal && -1074 < exponent then 1 else 2)
  value := 4 * significand
  high := 4 * significand + 2
  closed := significand % 2 = 0

/-- Whether `n` units of `unit` lie in the interval, whose numbers count `scale`. -/
def Interval.holds (i : Interval) (scale unit n : Nat) : Bool :=
  let x := n * unit
  if i.closed then i.low * scale ≤ x && x ≤ i.high * scale
  else i.low * scale < x && x < i.high * scale

/-- Looks for the shortest decimal in the interval, from `17 - fuel` digits on: the digits and
the exponent of the last one.  Of two with the same number of digits the nearer one is taken. -/
def shortestFrom (i : Interval) (num den : Nat) (first : Int) : Nat → Nat × Int
  | 0 => (0, 0)
  | fuel + 1 =>
    let exponent := first - (16 - (fuel : Int))
    let (up, down) := powerOfTen exponent
    let scale := num * down
    let unit := den * up
    let below := i.value * scale / unit
    let rest := i.value * scale % unit
    match i.holds scale unit below, i.holds scale unit (below + 1) with
    | false, false => shortestFrom i num den first fuel
    | true, false => (below, exponent)
    | false, true => (below + 1, exponent)
    | true, true =>
      if 2 * rest < unit || (2 * rest == unit && below % 2 == 0) then (below, exponent)
      else (below + 1, exponent)

/-- The fewest decimal digits that read back to a positive finite number, as a number and the
exponent of ten that it is multiplied with. -/
def shortest (significand : Nat) (exponent : Int) : Nat × Int :=
  let (num, den) := powerOfTwo (exponent - 2)
  shortestFrom (interval significand exponent) num den
    (decimalExponent (4 * significand * num) den) 17

def dropZeros (t : Text) : Text := Text.dropWhileEnd (· == '0') t

/-- Significant digits with the exponent of the first one.  Exponents from -4 to 15 are written
positionally, with a fraction of at least one digit; others with `e`, a sign and at least two
digits. -/
def layout (digits : Text) (exponent : Int) : Text :=
  if -4 ≤ exponent && exponent < 16 then
    if exponent < 0 then
      "0." ++ List.replicate (-exponent - 1).toNat (CodePoint.ofChar '0') ++ digits
    else
      let whole := exponent.toNat + 1
      let fraction := digits.drop whole
      let point : Text := if fraction.isEmpty then ".0" else "."
      digits.take whole ++ List.replicate (whole - digits.length) (CodePoint.ofChar '0') ++ point ++
        fraction
  else
    let mantissa : Text := match digits with
      | [] => []
      | [d] => [d]
      | d :: ds => d :: '.' :: ds
    let mark : Text := if exponent < 0 then "e-" else "e+"
    let size := Text.ofNat exponent.natAbs
    mantissa ++ mark ++ List.replicate (2 - size.length) (CodePoint.ofChar '0') ++ size

def toText : Binary64 → Text
  | nan => "nan"
  | infinite negative => if negative then "-inf" else "inf"
  | finite negative m e =>
    let sign : Text := if negative then "-" else ""
    if m = 0 then sign ++ "0.0"
    else
      let (digits, last) := shortest m e
      let all := Text.ofNat digits
      sign ++ layout (dropZeros all) (last + all.length - 1)

end Binary64

end Issuer
