import PageClip.Markup.Item
import PageClip.Text.Lowercase

/-!
# Pasteable roots

The shell of a document cannot be pasted. Its body contributes its elements
other than scripts and style sheets; outside a body, elements inside the shell
are looked for.
-/

namespace PageClip.Tree

open PageClip.Markup

def shellTags : List String :=
  ["html", "head", "body", "title", "meta", "link", "script", "style", "base"]

def childElements : List Item → List Element
  | [] => []
  | .element name attributes children :: rest => ⟨name, attributes, children⟩ :: childElements rest
  | .text .. :: rest => childElements rest

def bodyElements (items : List Item) : List Element :=
  (childElements items).filter fun element =>
    lowercase element.name ≠ "script" && lowercase element.name ≠ "style"

mutual

def rootsOfItem : Item → List Element
  | .text .. => []
  | .element name attributes children =>
    if lowercase name = "body" then bodyElements children
    else if shellTags.contains (lowercase name) then rootsOf children
    else [⟨name, attributes, children⟩]

/-- The roots among and inside items, in order. -/
def rootsOf : List Item → List Element
  | [] => []
  | item :: rest => rootsOfItem item ++ rootsOf rest

end

def contentRoots (document : Document) : List Element := rootsOf document

end PageClip.Tree
