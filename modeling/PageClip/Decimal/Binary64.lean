import PageClip.Decimal.Round

/-!
# Binary floating point

A number of 53 significant bits is kept as its mantissa and exponent, so that
all arithmetic on it is exact. `ofRatio` rounds to the nearest such number.
-/

namespace PageClip.Decimal

/-- How large a floating-point number is: `mantissa * 2 ^ exponent`, or too large to tell. -/
inductive Magnitude where
  | finite (mantissa : Nat) (exponent : Int)
  | infinite
  deriving DecidableEq, Repr

structure Binary64 where
  negative : Bool
  magnitude : Magnitude
  deriving DecidableEq, Repr

namespace Magnitude

/-- The least exponent. -/
def leastExponent : Int := -1074

def greatestExponent : Int := 971

/-- The first number that has more than 53 bits. -/
def mantissaEnd : Nat := 0x20000000000000

/-- The first number that has 53 bits. -/
def leastFull : Nat := 0x10000000000000

/-- The magnitude nearest to `num / den`; a half goes to the even mantissa. -/
def ofRatio (num den : Nat) : Magnitude :=
  if num = 0 then .finite 0 leastExponent
  else
    let guess := max ((num.log2 : Int) - den.log2 - 53) leastExponent
    let (n, d) := scale 2 num den (-guess)
    let exponent := if n / d < mantissaEnd then guess else guess + 1
    let (n, d) := scale 2 num den (-exponent)
    let mantissa := roundDiv n d
    let (mantissa, exponent) :=
      if mantissa = mantissaEnd then (leastFull, exponent + 1) else (mantissa, exponent)
    if greatestExponent < exponent then .infinite else .finite mantissa exponent

/-- The magnitude nearest to `digits * 10 ^ exponent`. -/
def ofDecimal (digits : Nat) (exponent : Int) : Magnitude :=
  let length : Int := (Nat.toDigits 10 digits).length
  if digits = 0 || length + exponent < -400 then .finite 0 leastExponent
  else if 400 < length + exponent then .infinite
  else
    let (num, den) := scale 10 digits 1 exponent
    ofRatio num den

end Magnitude

namespace Binary64

def isZero (x : Binary64) : Bool :=
  match x.magnitude with
  | .finite mantissa _ => mantissa == 0
  | .infinite => false

/-- Whether a number is at least `n`. -/
def atLeast (x : Binary64) (n : Nat) : Bool :=
  match x.magnitude with
  | .infinite => !x.negative
  | .finite mantissa exponent =>
    let (num, den) := scale 2 mantissa 1 exponent
    if x.negative then n == 0 && num == 0 else n * den ≤ num

end Binary64

end PageClip.Decimal
