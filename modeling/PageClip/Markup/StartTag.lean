import PageClip.Markup.Reference.Basic
import PageClip.Markup.Token
import PageClip.Text.Blank
import PageClip.Text.Lowercase

/-!
# Start tags

A tag name runs up to a blank, a slash, a bracket or a null character.
Attributes follow it; each starts behind a blank, a slash or a quote. An
attribute without an equals sign has an empty value.
-/

namespace PageClip.Markup

open PageClip.Text

/-- A character of a tag name behind the first. -/
def inTagName (c : Char) : Bool :=
  !(c = '\t' || c = '\n' || c = '\r' || c = '\x0c' || c = ' ' || c = '/' || c = '>' || c = '\x00')

/-- A character of an attribute name behind the first. -/
def inAttributeName (c : Char) : Bool := !(isBlank c || c = '/' || c = '=' || c = '>')

def inBareValue (c : Char) : Bool := !(isBlank c || c = '>')

def endsGap (c : Char) : Bool := isBlank c || c = '/' || c = '"' || c = '\''

/-- A place in a tag: the character before it and the text from it on. -/
structure Place where
  before : Char
  rest : Text
  deriving DecidableEq, Repr

namespace Place

/-- The place behind the blanks, and behind the slashes that are not followed by a bracket. -/
def skipGap (before : Char) : Text → Place
  | [] => ⟨before, []⟩
  | '/' :: '>' :: rest => ⟨before, '/' :: '>' :: rest⟩
  | c :: rest => if isBlank c || c = '/' then skipGap c rest else ⟨before, c :: rest⟩

def skip (before : Char) (run : Text) (rest : Text) : Place := ⟨run.getLastD before, rest⟩

end Place

/-- A value in quotes, where the text starts with one that is closed. -/
def quotedValue? : Text → Option (Text × Place)
  | '"' :: rest => (cut? ['"'] rest).map fun (value, after) => (value, ⟨'"', after⟩)
  | '\'' :: rest => (cut? ['\''] rest).map fun (value, after) => (value, ⟨'\'', after⟩)
  | _ => none

/-- The value behind an attribute name and the place behind the value; nothing where no value
follows. Where a quote is never closed, the value is empty if a blank stands before the quote, and
starts with the last equals sign if there are several. -/
def attributeValue? (text : Text) : Option (Text × Place) :=
  match trimLeft text with
  | '=' :: rest =>
    let signs := rest.takeWhile (· == '=')
    let behind := rest.dropWhile (· == '=')
    let gap := behind.takeWhile isBlank
    let shown := behind.dropWhile isBlank
    match quotedValue? shown with
    | some (value, place) => some (value, place)
    | none =>
      if shown.head? = some '"' || shown.head? = some '\'' then
        if !gap.isEmpty then some ([], ⟨' ', shown⟩)
        else if signs.isEmpty then none
        else
          let value := '=' :: shown.takeWhile inBareValue
          some (value, .skip '=' value (shown.dropWhile inBareValue))
      else
        let value := shown.takeWhile inBareValue
        some (value, .skip (gap.getLastD '=') value (shown.dropWhile inBareValue))
  | _ => none

/-- The attributes from a place on and the place behind them; `fuel` bounds their number. -/
def attributesFrom : Nat → Place → List (Text × Text) × Place
  | 0, place => ([], place)
  | fuel + 1, place =>
    match place.rest with
    | [] => ([], place)
    | c :: rest =>
      if !endsGap place.before || isBlank c || c = '/' || c = '>' then ([], place)
      else
        let name := c :: rest.takeWhile inAttributeName
        let after := rest.dropWhile inAttributeName
        let (value, place) :=
          match attributeValue? after with
          | some (value, place) => (Reference.unescape value, place)
          | none => ([], .skip c name after)
        let (more, last) := attributesFrom fuel (.skipGap place.before place.rest)
        ((lower name, value) :: more, last)

def startTag (text : Text) : Construct :=
  let name := text.takeWhile inTagName
  let gap := Place.skipGap (name.getLastD '<') (text.dropWhile inTagName)
  let (attributes, place) := attributesFrom gap.rest.length gap
  let name := lower name
  match place.rest with
  | '>' :: rest =>
    let raw := name = "script".toList || name = "style".toList
    .complete [.opening name attributes false] (if raw then some name else none) rest
  | '/' :: '>' :: rest => .complete [.opening name attributes true] none rest
  | [] => .incomplete
  | c :: rest =>
    if c.isAlpha || c = '=' || c = '/' then .incomplete
    else
      let length := text.length - (c :: rest).length
      .complete [.text ('<' :: text.take length)] none (c :: rest)

end PageClip.Markup
