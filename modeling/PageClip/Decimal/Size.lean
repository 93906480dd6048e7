import PageClip.Decimal.Binary64

/-!
# Sizes in kilobytes

A number of bytes is divided by 1024 in binary floating point and shown with two
places; a half of the last place goes to the even digit.
-/

namespace PageClip.Decimal

/-- A number of hundredths with a point before the last two digits. -/
def hundredths (n : Nat) : String :=
  let cents := n % 100
  s!"{n / 100}." ++ (if cents < 10 then "0" else "") ++ s!"{cents}"

/-- A number of bytes in kilobytes, where floating point can hold it. -/
def kilobytes? (bytes : Int) : Option String :=
  match Magnitude.ofRatio bytes.natAbs 1024 with
  | .infinite => none
  | .finite mantissa exponent =>
    let (num, den) := scale 2 mantissa 1 exponent
    some ((if bytes < 0 then "-" else "") ++ hundredths (roundDiv (100 * num) den) ++ " KB")

end PageClip.Decimal
