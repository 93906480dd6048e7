import PageClip.Markup.Item
import PageClip.Markup.Token

/-!
# From tokens to documents

Start tags nest until an end tag of their name closes them and all that is open
inside. A void element is closed at once; the next end tag of its name is then
ignored. A tag that closes itself closes its own element and leaves the end tags
that are to be ignored as they are.
-/

namespace PageClip.Markup

/-- The elements that never have content. -/
def voidNames : List String := [
  "area", "base", "br", "col", "embed", "hr", "img", "input", "keygen", "link", "menuitem",
  "meta", "param", "source", "track", "wbr", "basefont", "bgsound", "command", "frame", "image",
  "isindex", "nextid", "spacer"]

def embeddingNames : List String := ["script", "style", "template", "rt", "rp"]

/-- An element that is still open, with the items that stand before it, last first. -/
structure OpenElement where
  name : String
  attributes : List (String × String)
  before : List Item

/-- The items behind which an element stands once it is closed with its own items. -/
def OpenElement.shut (element : OpenElement) (items : List Item) : List Item :=
  .element element.name element.attributes items.reverse :: element.before

structure Builder where
  /-- The items of the innermost open element, last first. -/
  items : List Item
  /-- The open elements, innermost first. -/
  stack : List OpenElement
  /-- The pieces of the text that is being read, last first. -/
  pieces : List Text
  credits : List String

namespace Builder

def empty : Builder := ⟨[], [], [], []⟩

def add (item : Item) (builder : Builder) : Builder :=
  { builder with items := item :: builder.items }

def textKind (builder : Builder) : TextKind :=
  if builder.stack.any fun element => embeddingNames.contains element.name then .embedded
  else .plain

/-- Ends the text that is being read. -/
def endText (builder : Builder) : Builder :=
  match builder.pieces with
  | [] => builder
  | pieces => add (.text builder.textKind pieces.reverse.flatten) { builder with pieces := [] }

def push (name : String) (attributes : List (String × String)) (builder : Builder) : Builder :=
  let builder := builder.endText
  { builder with items := [], stack := ⟨name, attributes, builder.items⟩ :: builder.stack }

/-- Closes open elements up to and including the innermost of a name. -/
def closeThrough (name : String) : List OpenElement → List Item → List OpenElement × List Item
  | [], items => ([], items)
  | inner :: outer, items =>
    if inner.name = name then (outer, inner.shut items)
    else closeThrough name outer (inner.shut items)

/-- Closes the innermost open element of a name and what is open inside; nothing if none is open. -/
def close (name : String) (builder : Builder) : Builder :=
  let builder := builder.endText
  if builder.stack.any fun element => element.name = name then
    let (stack, items) := closeThrough name builder.stack builder.items
    { builder with stack, items }
  else builder

/-- An end tag, which a void element before it may have made void. -/
def endTag (name : String) (builder : Builder) : Builder :=
  if builder.credits.contains name then { builder with credits := builder.credits.erase name }
  else builder.close name

def string (text : Text) : String := String.ofList text

def step (builder : Builder) : Token → Builder
  | .text content => { builder with pieces := content :: builder.pieces }
  | .aside kind content =>
    let kind : TextKind := match kind with
      | .cdata => .cdata
      | .remark => .remark
    builder.endText.add (.text kind content)
  | .closing name => builder.endTag (string name)
  | .opening name attributes closed =>
    let name := string name
    let attributes := Table.ofList (attributes.map fun (key, value) => (string key, string value))
    let opened := builder.push name attributes
    if closed then opened.close name
    else if voidNames.contains name then
      let shut := opened.close name
      { shut with credits := shut.credits ++ [name] }
    else opened

def document (builder : Builder) : Document :=
  let builder := builder.endText
  (builder.stack.foldl (fun items element => element.shut items) builder.items).reverse

end Builder

def Document.ofTokens (tokens : List Token) : Document :=
  (tokens.foldl Builder.step .empty).document

end PageClip.Markup
