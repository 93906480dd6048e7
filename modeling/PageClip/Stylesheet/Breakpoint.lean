import PageClip.Decimal.Numeral
import PageClip.Fault
import PageClip.Text.Caseless

/-!
# Breakpoints

The widths below which a style may vary, narrowest first, and the media
conditions that ask for them.
-/

namespace PageClip

open PageClip.Text

inductive Breakpoint where
  | tiny
  | small
  | medium
  deriving DecidableEq, Repr

namespace Breakpoint

/-- The breakpoints, narrowest first. -/
def all : List Breakpoint := [.tiny, .small, .medium]

def name : Breakpoint → String
  | .tiny => "tiny"
  | .small => "small"
  | .medium => "medium"

def ofName? (name : String) : Option Breakpoint := all.find? fun tier => tier.name == name

/-- The breakpoint that a greatest width stands for. -/
def ofWidth? : Int → Option Breakpoint
  | 479 => some .tiny
  | 480 => some .tiny
  | 767 => some .small
  | 768 => some .small
  | 991 => some .medium
  | 992 => some .medium
  | _ => none

/-- The digits of a greatest width in pixels, where a condition on it starts the text. -/
def widthHere? (condition : Text) : Option Text :=
  match dropCaseless? "max-width".toList condition with
  | none => none
  | some rest =>
    match trimLeft rest with
    | ':' :: rest =>
      let shown := trimLeft rest
      let digits := shown.takeWhile isDecimal
      if digits.isEmpty then none
      else (dropCaseless? ['p', 'x'] (shown.dropWhile isDecimal)).map fun _ => digits
    | _ => none

/-- The digits of the first greatest width that a condition asks for. -/
def width? : Text → Option Text
  | [] => none
  | c :: rest => (widthHere? (c :: rest)).or (width? rest)

/-- The breakpoint that a media condition asks for; a width may be too long to read. -/
def ofCondition (condition : Text) : Except Fault (Option Breakpoint) :=
  match width? condition with
  | none => .ok none
  | some digits =>
    match Decimal.readInteger? digits with
    | some width => .ok (ofWidth? width)
    | none => .error .unreadableInteger

end Breakpoint

end PageClip
