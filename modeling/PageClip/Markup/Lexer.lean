import PageClip.Fault
import PageClip.Markup.StartTag
import PageClip.Text.Caseless

/-!
# Reading markup

The text is read twice: once as if more could follow, and from the place where
that stops once more as the end. What is incomplete at the end is text. The
content of scripts and style sheets is raw up to their end tag.
-/

namespace PageClip.Markup

open PageClip.Text

/-- What stands before the first two dashes that close a comment, and what follows its bracket. -/
def cutComment? : Text → Option (Text × Text)
  | [] => none
  | c :: rest =>
    let here :=
      match c, rest with
      | '-', '-' :: more =>
        match trimLeft more with
        | '>' :: after => some after
        | _ => none
      | _, _ => none
    match here with
    | some after => some ([], after)
    | none => (cutComment? rest).map fun (before, after) => (c :: before, after)

/-- What follows the end of a marked section, where the text starts with it: a square bracket, or
two, and an angle bracket, with blanks between them. -/
def sectionEnd? (double : Bool) : Text → Option Text
  | ']' :: rest =>
    match double, trimLeft rest with
    | false, '>' :: after => some after
    | true, ']' :: more =>
      match trimLeft more with
      | '>' :: after => some after
      | _ => none
    | _, _ => none
  | _ => none

/-- What stands before the end of a marked section, and what follows it. -/
def cutSection? (double : Bool) : Text → Option (Text × Text)
  | [] => none
  | c :: rest =>
    match sectionEnd? double (c :: rest) with
    | some after => some ([], after)
    | none => (cutSection? double rest).map fun (before, after) => (c :: before, after)

/-- A character of the name of a marked section behind the first. -/
def inSectionName (c : Char) : Bool := c.isAlphanum || c = '-' || c = '_' || c = '.'

def markedSection (text : Text) : Construct :=
  match text with
  | [] => .incomplete
  | c :: _ =>
    if !c.isAlpha then .rejected
    else
      let name := (text.takeWhile inSectionName).map Char.toLower
      if (trimLeft (text.dropWhile inSectionName)).isEmpty then .incomplete
      else
        let double := ["temp", "cdata", "ignore", "include", "rcdata"].contains (String.ofList name)
        let single := ["if", "else", "endif"].contains (String.ofList name)
        if !double && !single then .rejected
        else
          match cutSection? double text with
          | none => .incomplete
          | some (content, rest) =>
            match dropCaseless? "cdata[".toList content with
            | some inside => .complete [.aside .cdata inside] none rest
            | none => .complete [.aside .remark content] none rest

def remark (text : Text) : Construct :=
  match cut? ['>'] text with
  | some (content, rest) => .complete [.aside .remark content] none rest
  | none => .incomplete

/-- The declaration behind `<!`. -/
def declaration : Text → Construct
  | '-' :: '-' :: rest =>
    match cutComment? rest with
    | some (content, rest) => .complete [.aside .remark content] none rest
    | none => .incomplete
  | '[' :: rest => markedSection rest
  | text => remark text

/-- A character of the name of a well-formed end tag behind the first. -/
def inEndName (c : Char) : Bool :=
  c.isAlphanum || c = '-' || c = '.' || c = ':' || c = '_'

/-- The name of a well-formed end tag behind its slash, and what follows the tag. -/
def plainEndTag? (text : Text) : Option (Text × Text) :=
  match trimLeft text with
  | [] => none
  | c :: rest =>
    if !c.isAlpha then none
    else
      match trimLeft (rest.dropWhile inEndName) with
      | '>' :: after => some (c :: rest.takeWhile inEndName, after)
      | _ => none

/-- The end tag behind `</`, outside raw content. -/
def endTag (text : Text) : Construct :=
  match cut? ['>'] text with
  | none => .incomplete
  | some (before, after) =>
    match plainEndTag? text with
    | some (name, rest) => .complete [.closing (lower name)] none rest
    | none =>
      match before with
      | [] => .complete [] none after
      | c :: _ =>
        if c.isAlpha then .complete [.closing (lower (before.takeWhile inTagName))] none after
        else .complete [.aside .remark before] none after

/-- The construct behind an angle bracket, where one starts there. -/
def construct? : Text → Option Construct
  | '/' :: rest => some (endTag rest)
  | '!' :: rest => some (declaration rest)
  | '?' :: rest => some (remark rest)
  | c :: rest => if c.isAlpha then some (startTag (c :: rest)) else none
  | [] => none

inductive Step where
  /-- Tokens, the element whose content is raw from there on, and the text that is left. -/
  | proceed (tokens : List Token) (raw : Option Text) (rest : Text)
  /-- Tokens behind which nothing more can be read as it stands, and the text that is left. -/
  | halt (tokens : List Token) (rest : Text)
  | reject
  deriving DecidableEq, Repr

/-- The text behind the next closing bracket, or from the next opening one on, or behind the first
character. -/
def resume (text : Text) : Text :=
  match text with
  | [] => []
  | _ :: rest =>
    match cut? ['>'] rest with
    | some (_, after) => after
    | none => if rest.contains '<' then rest.dropWhile (· != '<') else rest

/-- The step at an opening bracket; `rest` follows the bracket. -/
def stepBracket (final : Bool) (rest : Text) : Step :=
  match construct? rest with
  | none => if rest.isEmpty then .halt [] ['<'] else .proceed [.text ['<']] none rest
  | some (.complete tokens raw after) => .proceed tokens raw after
  | some .rejected => .reject
  | some .incomplete =>
    if final then
      let text := '<' :: rest
      let after := resume text
      .proceed [.text (text.take (text.length - after.length))] none after
    else .halt [] ('<' :: rest)

/-- The reference by number behind `&#`, where one is complete. -/
def numericReference? (shown : Text) : Option (Text × Text) :=
  match Reference.code? shown with
  | some (code, c :: rest) =>
    if isHexDigit c then none
    else some ([Reference.ofCode code], Reference.dropSemicolon (c :: rest))
  | _ => none

/-- A character of a reference name behind the first. -/
def inReferenceName (c : Char) : Bool := c.isAlphanum || c = '-' || c = '.'

/-- The name behind an ampersand and what follows it, where something does that ends the name. At
the end of the text the last dash or point of the name ends it. -/
def referenceName? (text : Text) : Option (Text × Text) :=
  let run := text.takeWhile inReferenceName
  match text.dropWhile inReferenceName with
  | c :: rest => some (run, c :: rest)
  | [] =>
    let tail := run.reverse.takeWhile Char.isAlphanum
    let name := run.take (run.length - tail.length - 1)
    if name.isEmpty then none else some (name, run.drop name.length)

def namedText (name : Text) : Text := (Reference.named? name).getD ('&' :: name)

/-- The step at an ampersand; `rest` follows it. -/
def stepAmpersand (final : Bool) (rest : Text) : Step :=
  match rest with
  | '#' :: shown =>
    match numericReference? shown with
    | some (text, after) => .proceed [.text text] none after
    | none =>
      if shown.contains ';' then .halt [.text ['&', '#']] shown else .halt [] ('&' :: rest)
  | c :: more =>
    if c.isAlpha then
      match referenceName? rest with
      | some (name, after) => .proceed [.text (namedText name)] none (Reference.dropSemicolon after)
      | none => .halt [] (if final && more.isEmpty then rest else '&' :: rest)
    else .proceed [.text ['&']] none rest
  | [] => .halt [] ['&']

/-- Whether the end tag of an element with raw content starts the text. -/
def isRawEnd (name : Text) : Text → Bool
  | '<' :: '/' :: rest =>
    match dropCaseless? name (trimLeft rest) with
    | some after => (trimLeft after).head? == some '>'
    | none => false
  | _ => false

/-- What stands before the end tag of an element with raw content, and the text from the tag on. -/
def cutRaw? (name : Text) : Text → Option (Text × Text)
  | [] => none
  | c :: rest =>
    if isRawEnd name (c :: rest) then some ([], c :: rest)
    else (cutRaw? name rest).map fun (before, after) => (c :: before, after)

def stepRaw (name text : Text) : Step :=
  match cutRaw? name text with
  | none => .halt [] text
  | some ([], tag) =>
    match plainEndTag? (tag.drop 2) with
    | some (found, rest) =>
      if lower found = name then .proceed [.closing name] none rest
      else .proceed [.text (tag.take (tag.length - rest.length))] (some name) rest
    | none =>
      let rest := (tag.dropWhile (· != '>')).drop 1
      .proceed [.text (tag.take (tag.length - rest.length))] (some name) rest
  | some (before, tag) => .proceed [.text before] (some name) tag

def isMark (c : Char) : Bool := c = '<' || c = '&'

def stepPlain (final : Bool) : Text → Step
  | '<' :: rest => stepBracket final rest
  | '&' :: rest => stepAmpersand final rest
  | text => .proceed [.text (text.takeWhile fun c => !isMark c)] none
      (text.dropWhile fun c => !isMark c)

/-- One step of reading; `raw` is the element whose content is raw. -/
def step (final : Bool) (raw : Option Text) (text : Text) : Step :=
  match raw with
  | some name => stepRaw name text
  | none => stepPlain final text

/-- Reads on; `fuel` bounds the steps that are left. Nothing comes back where markup is rejected. -/
def lexFrom : Nat → Bool → Option Text → Text → Option (List Token)
  | 0, _, _, _ => some []
  | _ + 1, _, _, [] => some []
  | fuel + 1, final, raw, c :: text =>
    match step final raw (c :: text) with
    | .proceed tokens raw rest => (lexFrom fuel final raw rest).map (tokens ++ ·)
    | .halt tokens rest =>
      if final then
        some (tokens ++ if raw.isNone && !rest.isEmpty then [.text rest] else [])
      else (lexFrom fuel true raw rest).map (tokens ++ ·)
    | .reject => none

def lex? (text : Text) : Option (List Token) := lexFrom (text.length + 2) false none text

end PageClip.Markup
