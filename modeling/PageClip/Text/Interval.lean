/-!
# Unions of intervals

A set of code points is kept as the increasing list of the places where
membership changes.
-/

namespace PageClip.Text

/-- In from every other boundary, the first included, up to the next one. -/
def within : List Nat → Nat → Bool
  | [], _ => false
  | [start], n => start ≤ n
  | start :: stop :: rest, n =>
    if n < start then false else if n < stop then true else within rest n

theorem within_cons_of_lt {start n : Nat} {rest : List Nat} (h : n < start) :
    within (start :: rest) n = false := by
  cases rest with
  | nil => simp [within]; omega
  | cons => simp [within, h]

theorem within_of_mem {start stop n : Nat} (rest : List Nat) (lower : start ≤ n) (upper : n < stop) :
    within (start :: stop :: rest) n = true := by
  simp [within, upper, Nat.not_lt.mpr lower]

end PageClip.Text
