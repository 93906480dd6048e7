import PageClip.Decimal.Binary64

/-!
# The shortest decimal text of a number

A number is written with the fewest digits that read back as itself, and with
those digits that come nearest to it; of two that are equally near the even ones.
-/

namespace PageClip.Decimal

/-- The order of two positive fractions. -/
def lessOrEqual (a b : Nat × Nat) : Bool := a.1 * b.2 ≤ b.1 * a.2

/-- How often a fraction below one is to be multiplied by ten until it is one or more. -/
def leadingZeros (num den : Nat) : Nat → Nat
  | 0 => 0
  | fuel + 1 => if den ≤ num then 0 else leadingZeros (num * 10) den fuel + 1

def leadingExponent (num den : Nat) : Int :=
  if den ≤ num then (Nat.toDigits 10 (num / den)).length - 1
  else -(leadingZeros num den 400 : Int)

/-- The number of a decimal grid that lies nearest to `value` of those between `low` and `high`. -/
def readBack? (value low high : Nat × Nat) (closed : Bool) (unit : Int) : Option Nat :=
  let scaled := scale 10 value.1 value.2 (-unit)
  let below := scaled.1 / scaled.2
  let inside (n : Nat) : Bool :=
    let candidate := scale 10 n 1 unit
    if closed then lessOrEqual low candidate && lessOrEqual candidate high
    else !lessOrEqual candidate low && !lessOrEqual high candidate
  match inside below, inside (below + 1) with
  | true, true => some (roundDiv scaled.1 scaled.2)
  | true, false => some below
  | false, true => some (below + 1)
  | false, false => none

def shortestFrom (value low high : Nat × Nat) (closed : Bool) (unit : Int) : Nat → Nat × Int
  | 0 => (0, 0)
  | fuel + 1 =>
    match readBack? value low high closed unit with
    | some digits => (digits, unit)
    | none => shortestFrom value low high closed (unit - 1) fuel

/-- The fewest digits that read back as `mantissa * 2 ^ exponent`, and the power of ten of the last. -/
def shortest (mantissa : Nat) (exponent : Int) : Nat × Int :=
  let value := scale 2 mantissa 1 exponent
  let step := if mantissa = Magnitude.leastFull && Magnitude.leastExponent < exponent then 1 else 2
  let low := scale 2 (4 * mantissa - step) 4 exponent
  let high := scale 2 (4 * mantissa + 2) 4 exponent
  shortestFrom value low high (mantissa % 2 = 0) (leadingExponent value.1 value.2) 17

/-- Digits with the point behind the first `point` of them; the exponent is written if that is no place. -/
def placePoint (digits : List Char) (point : Int) : List Char :=
  if -4 < point && point ≤ 16 then
    if point ≤ 0 then '0' :: '.' :: List.replicate (-point).toNat '0' ++ digits
    else
      let whole := digits.take point.toNat
      let rest := digits.drop point.toNat
      whole ++ List.replicate (point.toNat - whole.length) '0' ++
        '.' :: if rest.isEmpty then ['0'] else rest
  else
    let power := point - 1
    let magnitude := Nat.toDigits 10 power.natAbs
    digits.take 1 ++ (if digits.length ≤ 1 then [] else '.' :: digits.drop 1) ++
      'e' :: (if power < 0 then '-' else '+') :: List.replicate (2 - magnitude.length) '0' ++
      magnitude

def trimZeros (digits : List Char) : List Char :=
  (digits.reverse.dropWhile (· == '0')).reverse

def Binary64.text (x : Binary64) : List Char :=
  (if x.negative then ['-'] else []) ++
  match x.magnitude with
  | .infinite => ['i', 'n', 'f']
  | .finite 0 _ => ['0', '.', '0']
  | .finite mantissa exponent =>
    let (digits, unit) := shortest mantissa exponent
    let shown := Nat.toDigits 10 digits
    placePoint (trimZeros shown) (shown.length + unit)

end PageClip.Decimal
