import PageClip.Json.Basic
import PageClip.Text.Basic

/-!
# Reading JSON

`read?` takes a text that holds one value and nothing else but blanks. Of a key
that an object repeats, the first place and the last value count.
-/

namespace PageClip.Json

def isSpace (c : Char) : Bool := c == ' ' || c == '\t' || c == '\n' || c == '\r'

/-- The text from its first part on. -/
def skipSpace (text : Text) : Text := text.dropWhile isSpace

def hexUnit? (a b c d : Char) : Option Nat :=
  if [a, b, c, d].all Text.isHexDigit then some (Text.ofDigits 16 [a, b, c, d]) else none

def joinSurrogates (high low : Nat) : Char :=
  Char.ofNat (0x10000 + (high - 0xd800) * 0x400 + (low - 0xdc00))

def unescape? : Char → Option Char
  | '"' => some '"'
  | '\\' => some '\\'
  | '/' => some '/'
  | 'b' => some '\x08'
  | 'f' => some '\x0c'
  | 'n' => some '\n'
  | 'r' => some '\r'
  | 't' => some '\t'
  | _ => none

/-- Puts a character in front of what has been read of a string. -/
def prepend (c : Char) : Option (Text × Text) → Option (Text × Text)
  | some (value, rest) => some (c :: value, rest)
  | none => none

/-- The second surrogate of a pair, where an escape at the start of the text writes one. -/
def lowSurrogate? : Text → Option Nat
  | '\\' :: 'u' :: a :: b :: c :: d :: _ =>
    (hexUnit? a b c d).filter fun unit => 0xdc00 ≤ unit && unit < 0xe000
  | _ => none

/-- Reads the inside of a string up to its closing quote. A surrogate without its partner becomes U+FFFD. -/
def readString? : Text → Option (Text × Text)
  | [] => none
  | '"' :: rest => some ([], rest)
  | '\\' :: 'u' :: a :: b :: c :: d :: rest =>
    match hexUnit? a b c d with
    | none => none
    | some unit =>
      if unit < 0xd800 || 0xe000 ≤ unit then prepend (Char.ofNat unit) (readString? rest)
      else
        match (if unit < 0xdc00 then lowSurrogate? rest else none) with
        | some low => prepend (joinSurrogates unit low) (readString? (rest.drop 6))
        | none => prepend '\ufffd' (readString? rest)
  | '\\' :: c :: rest =>
    match unescape? c with
    | some c => prepend c (readString? rest)
    | none => none
  | c :: rest => if c.toNat < 0x20 then none else prepend c (readString? rest)
termination_by text => text.length

/-- Whether a text begins with a minus, and the text behind it. -/
def splitMinus : Text → Bool × Text
  | '-' :: rest => (true, rest)
  | text => (false, text)

/-- The digits behind a point at the start of a text, and what follows them. -/
def splitFraction : Text → Text × Text
  | '.' :: tail =>
    if (tail.takeWhile Char.isDigit).isEmpty then ([], '.' :: tail)
    else (tail.takeWhile Char.isDigit, tail.dropWhile Char.isDigit)
  | text => ([], text)

/-- The exponent that a text begins with, and what follows it. -/
def splitPower? : Text → Option (Int × Text)
  | e :: tail =>
    if e = 'e' || e = 'E' then
      let (minus, digits) : Bool × Text :=
        match tail with
        | '+' :: more => (false, more)
        | _ => splitMinus tail
      let shown := digits.takeWhile Char.isDigit
      if shown.isEmpty then none
      else
        let size : Int := Text.ofDigits 10 shown
        some (if minus then -size else size, digits.dropWhile Char.isDigit)
    else none
  | [] => none

/-- Reads a number; it is an integer if it has neither a point nor an exponent. -/
def readNumber? (text : Text) : Option (Json × Text) :=
  let (negative, unsigned) := splitMinus text
  let whole := unsigned.takeWhile Char.isDigit
  if whole.isEmpty || (1 < whole.length && whole.head? == some '0') then none
  else
    let (fraction, rest) := splitFraction (unsigned.dropWhile Char.isDigit)
    match fraction.isEmpty, splitPower? rest with
    | true, none =>
      let size : Int := Text.ofDigits 10 whole
      some (.integer (if negative then -size else size), rest)
    | _, power =>
      let exponent := ((power.map (·.1)).getD 0) - fraction.length
      some (.real ⟨negative, .ofDecimal (Text.ofDigits 10 (whole ++ fraction)) exponent⟩,
        (power.map (·.2)).getD rest)

mutual

/-- Reads a value at the start of a text; `fuel` bounds the parts that are left to read. -/
def readValue? (fuel : Nat) (text : Text) : Option (Json × Text) :=
  match fuel with
  | 0 => none
  | fuel + 1 =>
    match skipSpace text with
    | [] => none
    | 'n' :: 'u' :: 'l' :: 'l' :: rest => some (.null, rest)
    | 't' :: 'r' :: 'u' :: 'e' :: rest => some (.bool true, rest)
    | 'f' :: 'a' :: 'l' :: 's' :: 'e' :: rest => some (.bool false, rest)
    | '"' :: rest =>
      match readString? rest with
      | some (value, rest) => some (.string (String.ofList value), rest)
      | none => none
    | '[' :: rest =>
      match skipSpace rest with
      | ']' :: rest => some (.array [], rest)
      | rest =>
        match readItems? fuel rest with
        | some (items, rest) => some (.array items, rest)
        | none => none
    | '\x7b' :: rest =>
      match skipSpace rest with
      | '\x7d' :: rest => some (.object [], rest)
      | rest =>
        match readFields? fuel rest with
        | some (fields, rest) => some (.object (Table.ofList fields), rest)
        | none => none
    | c :: rest => readNumber? (c :: rest)

def readItems? (fuel : Nat) (text : Text) : Option (List Json × Text) :=
  match fuel with
  | 0 => none
  | fuel + 1 =>
    match readValue? fuel text with
    | none => none
    | some (item, rest) =>
      match skipSpace rest with
      | ']' :: rest => some ([item], rest)
      | ',' :: rest =>
        match readItems? fuel rest with
        | some (items, rest) => some (item :: items, rest)
        | none => none
      | _ => none

def readFields? (fuel : Nat) (text : Text) : Option (List (String × Json) × Text) :=
  match fuel with
  | 0 => none
  | fuel + 1 =>
    match skipSpace text with
    | '"' :: rest =>
      match readString? rest with
      | none => none
      | some (key, rest) =>
        match skipSpace rest with
        | ':' :: rest =>
          match readValue? fuel rest with
          | none => none
          | some (value, rest) =>
            match skipSpace rest with
            | '\x7d' :: rest => some ([(String.ofList key, value)], rest)
            | ',' :: rest =>
              match readFields? fuel rest with
              | some (fields, rest) => some ((String.ofList key, value) :: fields, rest)
              | none => none
            | _ => none
        | _ => none
    | _ => none

end

def read? (text : String) : Option Json :=
  let text := text.toList
  match readValue? (text.length + 1) text with
  | some (value, rest) => if (skipSpace rest).isEmpty then some value else none
  | none => none

end PageClip.Json
