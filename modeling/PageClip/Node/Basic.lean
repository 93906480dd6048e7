import PageClip.Node.Payload
import PageClip.Text.Blank

/-!
# Nodes

A compiled page is a list of nodes that name each other by id. An element node
holds the ids of its children; a text node holds a text that is not blank.
-/

namespace PageClip

structure ElementNode where
  id : String
  kind : NodeKind
  tag : String
  data : Payload
  classes : List String
  /-- The ids of its children, in order. -/
  children : List String

structure TextNode where
  id : String
  value : String
  deriving DecidableEq, Repr

inductive Node where
  | element (node : ElementNode)
  | text (node : TextNode)

namespace Node

def id : Node → String
  | .element node => node.id
  | .text node => node.id

def isText : Node → Bool
  | .element _ => false
  | .text _ => true

def children : Node → List String
  | .element node => node.children
  | .text _ => []

end Node

/-- The node of an element whose id is not empty. -/
def ElementNode.make (node : ElementNode) : Except Fault Node :=
  if node.id.isEmpty then .error .emptyNodeId else .ok (.element node)

/-- The node of a text that is not blank and whose id is not empty. -/
def TextNode.make (node : TextNode) : Except Fault Node :=
  if node.id.isEmpty then .error .emptyNodeId
  else if (Text.trim node.value.toList).isEmpty then .error .blankTextNode
  else .ok (.text node)

/-- A node as the clipboard holds it. A custom element is a block there. -/
def ElementNode.toJson (node : ElementNode) : Json :=
  .object [
    ("_id", .string node.id),
    ("classes", .strings node.classes),
    ("type", .string node.kind.name),
    ("tag", .string (if node.kind = .custom then "div" else node.tag)),
    ("data", node.data.toJson),
    ("children", .strings node.children)]

def TextNode.toJson (node : TextNode) : Json :=
  .object [
    ("_id", .string node.id),
    ("text", .bool true),
    ("v", .string node.value),
    ("children", .emptyArray)]

def Node.toJson : Node → Json
  | .element node => node.toJson
  | .text node => node.toJson

end PageClip
