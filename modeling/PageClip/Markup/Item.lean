import PageClip.Table
import PageClip.Text.Basic

/-!
# Documents

A document is a list of items: elements with items of their own, and texts.
-/

namespace PageClip.Markup

inductive TextKind where
  | plain
  /-- Text inside a script, a style sheet, a template or a ruby annotation. -/
  | embedded
  | cdata
  | remark
  deriving DecidableEq, Repr

inductive Item where
  | element (name : String) (attributes : List (String × String)) (children : List Item)
  | text (kind : TextKind) (content : Text)

structure Element where
  name : String
  attributes : List (String × String)
  children : List Item

namespace Element

def toItem (element : Element) : Item :=
  .element element.name element.attributes element.children

def attribute? (name : String) (element : Element) : Option String :=
  Table.find? name element.attributes

end Element

abbrev Document := List Item

end PageClip.Markup
