import IndexScan.Number.Nearest

/-!
Floating-point numbers with 53 binary digits, as exact values: a finite one is
`± mantissa · 2 ^ exponent`. Every result is rounded once, to the nearest number, a tie going to
the even mantissa.
-/

namespace IndexScan

/-- A floating-point number. In a finite one that `round` builds, the exponent lies between -1074
and 971 and the mantissa below `2 ^ 53`, and it is at least `2 ^ 52` unless the exponent is
-1074. -/
inductive Binary64 where
  | nan
  | infinite (negative : Bool)
  | finite (negative : Bool) (mantissa : Nat) (exponent : Int)
  deriving DecidableEq, Repr, Inhabited

namespace Binary64

/-- The smallest exponent. -/
def minExponent : Int := -1074

/-- The largest exponent. -/
def maxExponent : Int := 971

/-- One more than the largest mantissa, `2 ^ 53`. -/
def mantissaBound : Nat := 0x20000000000000

/-- Zero with the given sign. -/
def zero (negative : Bool) : Binary64 :=
  .finite negative 0 minExponent

/-- The quotient `num / den` over `2 ^ e`, as numerator and denominator. -/
def scaled (num den : Nat) (e : Int) : Nat × Nat :=
  (num * Nat.pow 2 (-e).toNat, den * Nat.pow 2 e.toNat)

/-- The number nearest to `± num / den`. -/
def round (negative : Bool) (num den : Nat) : Binary64 :=
  if num = 0 then zero negative
  else
    let low : Int := (num.log2 : Int) - den.log2 - 53
    let (a, b) := scaled num den low
    let e := max minExponent (if mantissaBound ≤ a / b then low + 1 else low)
    let (a, b) := scaled num den e
    let m := nearest a b
    let (m, e) := if m = mantissaBound then (mantissaBound / 2, e + 1) else (m, e)
    if maxExponent < e then .infinite negative else .finite negative m e

/-- The number nearest to `± digits · 10 ^ exponent`, where `digits` has `count` decimal digits.
Exponents far outside the range are answered without computing the power. -/
def ofDecimal (negative : Bool) (digits count : Nat) (exponent : Int) : Binary64 :=
  if digits = 0 then zero negative
  else if 400 < exponent + count then .infinite negative
  else if exponent + count < -400 then zero negative
  else round negative (digits * Nat.pow 10 exponent.toNat)
    (Nat.pow 10 (-exponent).toNat)

/-- The number nearest to an integer. -/
def ofInt (n : Int) : Binary64 :=
  round (n < 0) n.natAbs 1

/-- The number with the other sign. -/
def neg : Binary64 → Binary64
  | nan => nan
  | infinite s => infinite !s
  | finite s m e => finite (!s) m e

/-- A finite number as numerator over a positive denominator. -/
def fraction (negative : Bool) (mantissa : Nat) (exponent : Int) : Int × Nat :=
  let n : Int := (mantissa * Nat.pow 2 exponent.toNat : Nat)
  (if negative then -n else n, Nat.pow 2 (-exponent).toNat)

/-- The integer that a number equals. -/
def toInt? : Binary64 → Option Int
  | finite s m e =>
    let (n, d) := fraction s m e
    if n % (d : Int) = 0 then some (n / (d : Int)) else none
  | _ => none

/-- Compares two fractions with positive denominators. -/
def compareFractions (x y : Int × Nat) : Ordering :=
  compare (x.1 * (y.2 : Int)) (y.1 * (x.2 : Int))

/-- How two numbers compare; nothing compares with a NaN. -/
def compare? : Binary64 → Binary64 → Option Ordering
  | nan, _ => none
  | _, nan => none
  | infinite s, infinite t => some (compare t.toNat s.toNat)
  | infinite s, finite .. => some (if s then .lt else .gt)
  | finite .., infinite t => some (if t then .gt else .lt)
  | finite s m e, finite t n f => some (compareFractions (fraction s m e) (fraction t n f))

/-- How an integer compares with a number; the comparison is exact. -/
def compareInt? (i : Int) : Binary64 → Option Ordering
  | nan => none
  | infinite s => some (if s then .gt else .lt)
  | finite s m e => some (compareFractions (i, 1) (fraction s m e))

/-- Whether a number is zero. -/
def isZero : Binary64 → Bool
  | finite _ m _ => m == 0
  | _ => false

/-- The product of two numbers. -/
def mul : Binary64 → Binary64 → Binary64
  | nan, _ => nan
  | _, nan => nan
  | infinite s, y => if y.isZero then nan else infinite (s != isNegative y)
  | x, infinite t => if x.isZero then nan else infinite (isNegative x != t)
  | finite s m e, finite t n f =>
    let (a, b) := scaled (m * n) 1 (-(e + f))
    round (s != t) a b
where
  /-- The sign of a number. -/
  isNegative : Binary64 → Bool
    | nan => false
    | infinite s => s
    | finite s _ _ => s

/-- The sum of two numbers; a sum of zero is positive unless both are negative zeros. -/
def add : Binary64 → Binary64 → Binary64
  | nan, _ => nan
  | _, nan => nan
  | infinite s, infinite t => if s = t then infinite s else nan
  | infinite s, finite .. => infinite s
  | finite .., infinite t => infinite t
  | finite s m e, finite t n f =>
    let (a, b) := fraction s m e
    let (c, d) := fraction t n f
    let sum := a * (d : Int) + c * (b : Int)
    if sum = 0 then zero (s && t && m == 0 && n == 0) else round (sum < 0) sum.natAbs (b * d)

end Binary64

end IndexScan
