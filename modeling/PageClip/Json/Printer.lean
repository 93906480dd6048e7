import PageClip.Decimal.Shortest
import PageClip.Json.Basic
import PageClip.Text.Quoted

/-!
# JSON text

A value is written either compactly or with every item on a line of its own,
indented by its depth. Strings escape the quote, the backslash and the
characters below U+0020, and nothing else.
-/

namespace PageClip.Json

def escapedChar (c : Char) : Text :=
  if c = '"' then ['\\', '"']
  else if c = '\\' then ['\\', '\\']
  else if c = '\n' then ['\\', 'n']
  else if c = '\r' then ['\\', 'r']
  else if c = '\t' then ['\\', 't']
  else if c = '\x08' then ['\\', 'b']
  else if c = '\x0c' then ['\\', 'f']
  else if c.toNat < 0x20 then '\\' :: 'u' :: Text.hex 4 c.toNat
  else [c]

def escaped (value : Text) : Text := value.flatMap escapedChar

def writeString (value : String) : Text := '"' :: escaped value.toList ++ ['"']

def writeInteger (value : Int) : Text :=
  if value < 0 then '-' :: Nat.toDigits 10 value.natAbs else Nat.toDigits 10 value.natAbs

/-- A floating-point number; the one too large to tell is spelt out. -/
def writeReal (value : Decimal.Binary64) : Text :=
  match value.magnitude with
  | .infinite => (if value.negative then ['-'] else []) ++ "Infinity".toList
  | .finite .. => value.text

/-- What parts the items at a depth: nothing in the compact form, a new line otherwise. -/
def lineBreak (indent : Option Nat) (depth : Nat) : Text :=
  match indent with
  | none => []
  | some width => '\n' :: List.replicate (width * depth) ' '

def colon (indent : Option Nat) : Text :=
  match indent with
  | none => [':']
  | some _ => [':', ' ']

mutual

def write (indent : Option Nat) (depth : Nat) : Json → Text
  | .null => "null".toList
  | .bool true => "true".toList
  | .bool false => "false".toList
  | .integer value => writeInteger value
  | .real value => writeReal value
  | .string value => writeString value
  | .array [] => ['[', ']']
  | .array (item :: items) =>
    '[' :: (lineBreak indent (depth + 1) ++ (write indent (depth + 1) item ++
      (writeItems indent (depth + 1) items ++ (lineBreak indent depth ++ [']']))))
  | .object [] => ['\x7b', '\x7d']
  | .object ((key, value) :: fields) =>
    '\x7b' :: (lineBreak indent (depth + 1) ++ (writeString key ++ (colon indent ++
      (write indent (depth + 1) value ++
        (writeFields indent (depth + 1) fields ++ (lineBreak indent depth ++ ['\x7d']))))))

/-- The items of an array behind the first. -/
def writeItems (indent : Option Nat) (depth : Nat) : List Json → Text
  | [] => []
  | item :: items =>
    ',' :: (lineBreak indent depth ++ (write indent depth item ++ writeItems indent depth items))

/-- The fields of an object behind the first. -/
def writeFields (indent : Option Nat) (depth : Nat) : List (String × Json) → Text
  | [] => []
  | (key, value) :: fields =>
    ',' :: (lineBreak indent depth ++ (writeString key ++ (colon indent ++
      (write indent depth value ++ writeFields indent depth fields))))

end

/-- The text of a value: compact, or with an indentation per level. -/
def render (indent : Option Nat) (value : Json) : String := String.ofList (write indent 0 value)

end PageClip.Json
