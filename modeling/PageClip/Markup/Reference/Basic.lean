import PageClip.Markup.Reference.LowerNames
import PageClip.Markup.Reference.UpperNames
import PageClip.Text.Basic

/-!
# Character references

A reference stands for a character, or a short text, by name or by number. In an
attribute value some old names need no semicolon, and a name may be followed
directly by further text.
-/

namespace PageClip.Markup.Reference

def namesFrom : Char → List (String × String)
  | 'A' => upperA
  | 'B' => upperB
  | 'C' => upperC
  | 'D' => upperD
  | 'E' => upperE
  | 'F' => upperF
  | 'G' => upperG
  | 'H' => upperH
  | 'I' => upperI
  | 'J' => upperJ
  | 'K' => upperK
  | 'L' => upperL
  | 'M' => upperM
  | 'N' => upperN
  | 'O' => upperO
  | 'P' => upperP
  | 'Q' => upperQ
  | 'R' => upperR
  | 'S' => upperS
  | 'T' => upperT
  | 'U' => upperU
  | 'V' => upperV
  | 'W' => upperW
  | 'X' => upperX
  | 'Y' => upperY
  | 'Z' => upperZ
  | 'a' => lowerA
  | 'b' => lowerB
  | 'c' => lowerC
  | 'd' => lowerD
  | 'e' => lowerE
  | 'f' => lowerF
  | 'g' => lowerG
  | 'h' => lowerH
  | 'i' => lowerI
  | 'j' => lowerJ
  | 'k' => lowerK
  | 'l' => lowerL
  | 'm' => lowerM
  | 'n' => lowerN
  | 'o' => lowerO
  | 'p' => lowerP
  | 'q' => lowerQ
  | 'r' => lowerR
  | 's' => lowerS
  | 't' => lowerT
  | 'u' => lowerU
  | 'v' => lowerV
  | 'w' => lowerW
  | 'x' => lowerX
  | 'y' => lowerY
  | 'z' => lowerZ
  | _ => []

def legacyNames : List String := [
  "AElig", "AMP", "Aacute", "Acirc", "Agrave", "Aring", "Atilde", "Auml", "COPY", "Ccedil", "ETH",
  "Eacute", "Ecirc", "Egrave", "Euml", "GT", "Iacute", "Icirc", "Igrave", "Iuml", "LT", "Ntilde",
  "Oacute", "Ocirc", "Ograve", "Oslash", "Otilde", "Ouml", "QUOT", "REG", "THORN", "Uacute",
  "Ucirc", "Ugrave", "Uuml", "Yacute", "aacute", "acirc", "acute", "aelig", "agrave", "amp",
  "aring", "atilde", "auml", "brvbar", "ccedil", "cedil", "cent", "copy", "curren", "deg",
  "divide", "eacute", "ecirc", "egrave", "eth", "euml", "frac12", "frac14", "frac34", "gt",
  "iacute", "icirc", "iexcl", "igrave", "iquest", "iuml", "laquo", "lt", "macr", "micro",
  "middot", "nbsp", "not", "ntilde", "oacute", "ocirc", "ograve", "ordf", "ordm", "oslash",
  "otilde", "ouml", "para", "plusmn", "pound", "quot", "raquo", "reg", "sect", "shy", "sup1",
  "sup2", "sup3", "szlig", "thorn", "times", "uacute", "ucirc", "ugrave", "uml", "uuml", "yacute",
  "yen", "yuml"]

def named? (name : Text) : Option Text :=
  match name with
  | [] => none
  | c :: _ => ((namesFrom c).lookup (String.ofList name)).map String.toList

/-- The text that a name without a semicolon stands for in an attribute value. -/
def legacy? (name : Text) : Option Text :=
  if legacyNames.contains (String.ofList name) then named? name else none

/-- The character of a code in the range of the second control block, as the common page encoding
of the West assigns it. -/
def western? (code : Nat) : Option Char :=
  ([(0x80, '€'), (0x82, '‚'), (0x83, 'ƒ'), (0x84, '„'), (0x85, '…'), (0x86, '†'), (0x87, '‡'),
    (0x88, 'ˆ'), (0x89, '‰'), (0x8a, 'Š'), (0x8b, '‹'), (0x8c, 'Œ'), (0x8e, 'Ž'), (0x91, '‘'),
    (0x92, '’'), (0x93, '“'), (0x94, '”'), (0x95, '•'), (0x96, '–'), (0x97, '—'), (0x98, '˜'),
    (0x99, '™'), (0x9a, 'š'), (0x9b, '›'), (0x9c, 'œ'), (0x9e, 'ž'), (0x9f, 'Ÿ')] :
    List (Nat × Char)).lookup code

/-- The character of a code, or U+FFFD where no character has it. -/
def ofCode (code : Nat) : Char :=
  match western? code with
  | some c => c
  | none => if code != 0 && code.isValidChar then Char.ofNat code else '\ufffd'

/-- A code that stands for nothing in an attribute value. -/
def isNoCharacter (code : Nat) : Bool :=
  (1 ≤ code && code ≤ 8) || code == 0x0b || (0x0e ≤ code && code ≤ 0x1f) ||
  (0x7f ≤ code && code ≤ 0x9f) || (0xfdd0 ≤ code && code ≤ 0xfdef) || 0xfffe ≤ code % 0x10000

def ofAttributeCode (code : Nat) : Text :=
  match western? code with
  | some c => [c]
  | none =>
    if 0x80 ≤ code && code ≤ 0x9f then [Char.ofNat code]
    else if code == 0 || !code.isValidChar then ['\ufffd']
    else if isNoCharacter code then []
    else [Char.ofNat code]

def dropSemicolon : Text → Text
  | ';' :: rest => rest
  | text => text

/-- The code that the text behind `&#` writes, and what follows the reference. -/
def code? : Text → Option (Nat × Text)
  | [] => none
  | c :: rest =>
    if c.isDigit then
      some (Text.ofDigits 10 ((c :: rest).takeWhile Char.isDigit), (c :: rest).dropWhile Char.isDigit)
    else if (c = 'x' || c = 'X') && !(rest.takeWhile Text.isHexDigit).isEmpty then
      some (Text.ofDigits 16 (rest.takeWhile Text.isHexDigit), rest.dropWhile Text.isHexDigit)
    else none

def inName (c : Char) : Bool :=
  !(c = '\t' || c = '\n' || c = '\x0c' || c = ' ' || c = '<' || c = '&' || c = '#' || c = ';')

/-- The text of the longest start of a name, of at least two and at most `length` characters, that
needs no semicolon. -/
def longestLegacy? (name : Text) : Nat → Option (Text × Text)
  | 0 => none
  | length + 1 =>
    if length + 1 < 2 then none
    else
      match legacy? (name.take (length + 1)) with
      | some text => some (text, name.drop (length + 1))
      | none => longestLegacy? name length

/-- The text that replaces a name in an attribute value; `closed` if a semicolon follows it. -/
def ofAttributeName (name : Text) (closed : Bool) : Text :=
  let tail := if closed then [';'] else []
  match if closed then named? name else legacy? name with
  | some text => text
  | none =>
    match longestLegacy? name (if closed then name.length else name.length - 1) with
    | some (text, more) => text ++ more ++ tail
    | none => '&' :: name ++ tail

/-- What replaces the reference behind an ampersand in an attribute value, and what follows it. -/
def attributeReference? (rest : Text) : Option (Text × Text) :=
  match rest with
  | '#' :: shown =>
    (code? shown).map fun (code, after) => (ofAttributeCode code, dropSemicolon after)
  | _ =>
    let name := (rest.takeWhile inName).take 32
    if name.isEmpty then none
    else
      let after := rest.drop name.length
      some (ofAttributeName name (after.head? == some ';'), dropSemicolon after)

/-- Replaces the references of an attribute value; `fuel` bounds the characters left to read. -/
def unescapeFrom : Nat → Text → Text
  | 0, text => text
  | _, [] => []
  | fuel + 1, c :: rest =>
    if c = '&' then
      match attributeReference? rest with
      | some (text, after) => text ++ unescapeFrom fuel after
      | none => c :: unescapeFrom fuel rest
    else c :: unescapeFrom fuel rest

def unescape (value : Text) : Text := unescapeFrom value.length value

end PageClip.Markup.Reference
