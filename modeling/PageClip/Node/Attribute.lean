import PageClip.Decimal.Numeral
import PageClip.Decimal.Shortest
import PageClip.Fault
import PageClip.Json.Basic
import PageClip.Json.Printer
import PageClip.Text.Blank

/-!
# Attribute values

The attributes of a parsed page are texts. A caller may also hand over other
values, which are read as the texts that `AttributeValue.text` gives.
-/

namespace PageClip

inductive AttributeValue where
  | absent
  | text (value : String)
  | flag (value : Bool)
  | integer (value : Int)
  | real (value : Decimal.Binary64)
  | words (values : List String)
  deriving DecidableEq, Repr

namespace AttributeValue

def toText : AttributeValue → String
  | .absent => ""
  | .text value => value
  | .flag true => "True"
  | .flag false => "False"
  | .integer value => toString value
  | .real value => String.ofList value.text
  | .words values => " ".intercalate values

def isFilled : AttributeValue → Bool
  | .absent => false
  | .text value => !value.isEmpty
  | .flag value => value
  | .integer value => value != 0
  | .real value => !value.isZero
  | .words values => !values.isEmpty

def classNames (value : AttributeValue) : List String :=
  if value.isFilled then (Text.words value.toText.toList).map String.ofList else []

end AttributeValue

/-- The attributes of an element, in order. -/
abbrev Attributes := Table String AttributeValue

namespace Attributes

def ofTexts (attributes : List (String × String)) : Attributes :=
  attributes.map fun (name, value) => (name, .text value)

/-- The text of an attribute; empty where the attribute is missing. -/
def get (name : String) (attributes : Attributes) : String :=
  ((Table.find? name attributes).map AttributeValue.toText).getD ""

/-- The text of an attribute, or another text where it is empty. -/
def getOr (name fallback : String) (attributes : Attributes) : String :=
  let value := attributes.get name
  if value.isEmpty then fallback else value

end Attributes

/-- The integer at the start of a text, or `fallback` where there is none or it is zero. -/
def leadingInteger (value : String) (fallback : Int) : Except Fault Int :=
  match Decimal.leadingNumeral? value.toList with
  | none => .ok fallback
  | some shown =>
    match Decimal.readInteger? shown with
    | none => .error .unreadableInteger
    | some 0 => .ok fallback
    | some n => .ok n

end PageClip
