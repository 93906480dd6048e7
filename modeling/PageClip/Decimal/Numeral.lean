import PageClip.Text.Blank
import PageClip.Text.Digit

/-!
# Integers in text

An integer may have blanks around it, a sign, digits of any script, and single
underscores between digits. A numeral of more than `longest` digits is refused,
as `readNatural?_eq_none_of_longest` says.
-/

namespace PageClip.Decimal

open PageClip.Text

def longest : Nat := 4300

/-- A blank that may surround a numeral; the separators U+001C to U+001F may not. -/
def isNumeralBlank (c : Char) : Bool := isBlank c && !(0x1c ≤ c.toNat && c.toNat ≤ 0x1f)

def digitValues? : Text → Option (List Nat)
  | [] => none
  | [c] => (digitValue? c).map ([·])
  | c :: '_' :: rest =>
    match digitValue? c, digitValues? rest with
    | some value, some values => some (value :: values)
    | _, _ => none
  | c :: rest =>
    match digitValue? c, digitValues? rest with
    | some value, some values => some (value :: values)
    | _, _ => none

def ofValues (values : List Nat) : Nat := values.foldl (fun n value => n * 10 + value) 0

def readNatural? (text : Text) : Option Nat :=
  match digitValues? text with
  | some values => if values.length ≤ longest then some (ofValues values) else none
  | none => none

/-- The integer that a text writes, or nothing where it writes none or one that is too long. -/
def readInteger? (text : Text) : Option Int :=
  let bare := ((text.dropWhile isNumeralBlank).reverse.dropWhile isNumeralBlank).reverse
  match bare with
  | '-' :: rest => (readNatural? rest).map fun n => -(n : Int)
  | '+' :: rest => (readNatural? rest).map fun n => (n : Int)
  | rest => (readNatural? rest).map fun n => (n : Int)

theorem readNatural?_eq_none_of_longest {text : Text} {values : List Nat}
    (h : digitValues? text = some values) (long : longest < values.length) :
    readNatural? text = none := by
  simp [readNatural?, h, Nat.not_le.mpr long]

/-- The leading integer of a text with blanks, sign and digits, if there is one. -/
def leadingNumeral? (text : Text) : Option Text :=
  let blanks := text.takeWhile isBlank
  let rest := text.dropWhile isBlank
  let (sign, rest) : Text × Text :=
    match rest with
    | '-' :: tail => (['-'], tail)
    | '+' :: tail => (['+'], tail)
    | _ => ([], rest)
  let digits := rest.takeWhile isDecimal
  if digits.isEmpty then none else some (blanks ++ sign ++ digits)

end PageClip.Decimal
