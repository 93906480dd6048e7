import PageClip.Markup.Item
import PageClip.Text.Blank

/-!
# Searching documents

Elements and texts at any depth, in the order in which they start.
-/

namespace PageClip.Markup

open PageClip.Text

mutual

/-- An item's element, if it is one, and the elements inside it. -/
def Item.elements : Item → List Element
  | .text _ _ => []
  | .element name attributes children => ⟨name, attributes, children⟩ :: elementsOf children

def elementsOf : List Item → List Element
  | [] => []
  | item :: rest => item.elements ++ elementsOf rest

end

def elementsNamed (name : String) (items : List Item) : List Element :=
  (elementsOf items).filter fun element => element.name = name

/-- A text without surrounding blanks, if it counts as shown and is not blank. -/
def shownText (kind : TextKind) (content : Text) : Text :=
  if kind = .plain || kind = .cdata then trim content else []

mutual

def Item.shown : Item → Text
  | .text kind content => shownText kind content
  | .element _ _ children => shownOf children

/-- The shown text inside a list of items: each piece without surrounding blanks, one after another. -/
def shownOf : List Item → Text
  | [] => []
  | item :: rest => item.shown ++ shownOf rest

end

/-- The text of an item that holds a single text, itself or inside a chain of only children. -/
def Item.soleText? : Item → Option Text
  | .text _ content => some content
  | .element _ _ [child] => child.soleText?
  | .element .. => none

def Element.soleText? (element : Element) : Option Text := element.toItem.soleText?

end PageClip.Markup
