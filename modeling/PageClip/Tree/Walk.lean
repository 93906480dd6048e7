import PageClip.Node.Basic
import PageClip.Node.Classify
import PageClip.Style.Collection

/-!
# Walking an element

The nodes of an element come out parent first. The walk keeps the elements that
it is inside as frames of its own: each draws its id and takes its place among
the nodes when it is entered, and fills the place when its children are done.
-/

namespace PageClip.Tree

open PageClip.Markup

structure Frame where
  element : Element
  insideForm : Bool
  id : String
  slot : Nat
  pending : List Item
  /-- The ids of the children so far, last first. -/
  childIds : List String

namespace Frame

def childrenInsideForm (frame : Frame) : Bool :=
  frame.insideForm || lowercase frame.element.name = "form"

/-- The frame without the first of its pending items. -/
def next (frame : Frame) (rest : List Item) : Frame := { frame with pending := rest }

def withChild (frame : Frame) (rest : List Item) (id : String) : Frame :=
  { frame with pending := rest, childIds := id :: frame.childIds }

end Frame

/-- The style ids of the classes of an element that have a style. -/
def styleIds (classIds : ClassIds) (attributes : Attributes) : List String :=
  let names := ((Table.find? "class" attributes).map AttributeValue.classNames).getD []
  names.filterMap fun name => Table.find? name classIds

def elementNode (classIds : ClassIds) (element : Element) (insideForm : Bool) (id : String)
    (childIds : List String) : Build Node := do
  let tag := lowercase element.name
  let attributes := Attributes.ofTexts element.attributes
  let kind ← Build.ofExcept (classify tag attributes insideForm)
  let data ← payload tag kind attributes (some element)
  Build.ofExcept
    (ElementNode.make ⟨id, kind, tag, data, styleIds classIds attributes, childIds⟩)

/-- The text that a text item contributes: nothing if it is blank or no ordinary text. -/
def nodeText (kind : TextKind) (content : Text) : Text :=
  match kind with
  | .plain => Text.trim content
  | .embedded => Text.trim content
  | .cdata => []
  | .remark => []

mutual

def itemSteps : Item → Nat
  | .text .. => 1
  | .element _ _ children => 2 + stepsOf children

def stepsOf : List Item → Nat
  | [] => 0
  | item :: rest => itemSteps item + stepsOf rest

end

def stackSteps : List Frame → Nat
  | [] => 0
  | frame :: rest => 1 + stepsOf frame.pending + stackSteps rest

/-- Walks on with the frames of a stack, innermost first, over the nodes so far. -/
def walk (classIds : ClassIds) : List Frame → Array (Option Node) → Build (Array (Option Node))
  | [], slots => pure slots
  | frame :: outer, slots =>
    match _ : frame.pending with
    | [] => do
      let node ← elementNode classIds frame.element frame.insideForm frame.id frame.childIds.reverse
      walk classIds outer (slots.setIfInBounds frame.slot (some node))
    | .element name attributes children :: rest => do
      let id ← Build.newId
      let inner : Frame :=
        ⟨⟨name, attributes, children⟩, frame.childrenInsideForm, id, slots.size, children, []⟩
      walk classIds (inner :: frame.withChild rest id :: outer) (slots.push none)
    | .text kind content :: rest =>
      if (nodeText kind content).isEmpty then walk classIds (frame.next rest :: outer) slots
      else do
        let id ← Build.newId
        let node ← Build.ofExcept
          (TextNode.make ⟨id, String.ofList (nodeText kind content)⟩)
        walk classIds (frame.withChild rest id :: outer) (slots.push (some node))
termination_by stack => stackSteps stack
decreasing_by
  all_goals
    simp only [stackSteps, Frame.next, Frame.withChild, ‹frame.pending = _›, stepsOf, itemSteps]
    omega

/-- The nodes of an element and of all that is inside, parents first. -/
def compileElement (classIds : ClassIds) (element : Element) (insideForm : Bool) :
    Build (List Node) := do
  let id ← Build.newId
  let slots ← walk classIds [⟨element, insideForm, id, 0, element.children, []⟩] #[none]
  pure (slots.toList.filterMap fun slot => slot)

end PageClip.Tree
