import PageClip.Node.Attribute
import PageClip.Node.Kind
import PageClip.Text.Lowercase

/-!
# Classification

The kind of an element's node follows from its tag. The fields of forms are
fields inside a form only.
-/

namespace PageClip

namespace NodeKind

/-- The kinds of tags that have one of their own wherever they stand. -/
def tags : List (String × NodeKind) := [
  ("div", .block), ("section", .sectionBlock), ("article", .block), ("aside", .block), ("nav", .block),
  ("header", .block), ("footer", .block), ("main", .block), ("h1", .heading), ("h2", .heading),
  ("h3", .heading), ("h4", .heading), ("h5", .heading), ("h6", .heading), ("p", .paragraph),
  ("span", .block), ("strong", .block), ("em", .block), ("b", .block), ("i", .block), ("a", .link),
  ("img", .image), ("ul", .list), ("ol", .list), ("li", .listItem), ("form", .formForm),
  ("button", .block), ("container", .container)]

/-- The kinds of the tags that are fields inside a form; inputs are told apart by their type. -/
def fieldTags : List (String × NodeKind) := [
  ("textarea", .formTextarea), ("select", .formSelect), ("label", .formBlockLabel)]

def ofInputType : String → NodeKind
  | "submit" => .formButton
  | "button" => .formButton
  | "radio" => .formRadioInput
  | "checkbox" => .formCheckboxInput
  | _ => .formTextInput

end NodeKind

/-- The type of an input in lower case, `text` where none is given. -/
def inputType (attributes : Attributes) : Except Fault String :=
  let value := (Table.find? "type" attributes).getD .absent
  if value.isFilled then
    match value with
    | .text value => .ok (lowercase value)
    | _ => .error .notLowerable
  else .ok "text"

def classify (tag : String) (attributes : Attributes) (insideForm : Bool) :
    Except Fault NodeKind :=
  let tag := lowercase tag
  if tag = "input" then
    if insideForm then (inputType attributes).map .ofInputType else .ok .block
  else
    match NodeKind.fieldTags.lookup tag with
    | some kind => .ok (if insideForm then kind else .block)
    | none => .ok ((NodeKind.tags.lookup tag).getD .custom)

end PageClip
