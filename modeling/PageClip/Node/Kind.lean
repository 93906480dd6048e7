/-!
# Node kinds

The closed vocabulary of element nodes, and which of the optional fields the
payload of each kind carries.
-/

namespace PageClip

inductive NodeKind where
  | block
  | sectionBlock
  | container
  | grid
  | heading
  | paragraph
  | link
  | image
  | list
  | listItem
  | htmlEmbed
  | formWrapper
  | formForm
  | formButton
  | formTextInput
  | formTextarea
  | formSelect
  | formBlockLabel
  | formInlineLabel
  | formRadioWrapper
  | formRadioInput
  | formCheckboxWrapper
  | formCheckboxInput
  | formSuccessMessage
  | formErrorMessage
  | custom
  deriving DecidableEq, Repr

inductive PayloadShape where
  | textAndTag
  | tagOnly
  | neither
  deriving DecidableEq, Repr

def PayloadShape.name : PayloadShape → String
  | .textAndTag => "text_and_tag"
  | .tagOnly => "tag_only"
  | .neither => "neither"

namespace NodeKind

def all : List NodeKind := [
  .block, .sectionBlock, .container, .grid, .heading, .paragraph, .link, .image, .list, .listItem,
  .htmlEmbed, .formWrapper, .formForm, .formButton, .formTextInput, .formTextarea, .formSelect,
  .formBlockLabel, .formInlineLabel, .formRadioWrapper, .formRadioInput, .formCheckboxWrapper,
  .formCheckboxInput, .formSuccessMessage, .formErrorMessage, .custom]

def name : NodeKind → String
  | .block => "Block"
  | .sectionBlock => "Section"
  | .container => "Container"
  | .grid => "Grid"
  | .heading => "Heading"
  | .paragraph => "Paragraph"
  | .link => "Link"
  | .image => "Image"
  | .list => "List"
  | .listItem => "ListItem"
  | .htmlEmbed => "HtmlEmbed"
  | .formWrapper => "FormWrapper"
  | .formForm => "FormForm"
  | .formButton => "FormButton"
  | .formTextInput => "FormTextInput"
  | .formTextarea => "FormTextarea"
  | .formSelect => "FormSelect"
  | .formBlockLabel => "FormBlockLabel"
  | .formInlineLabel => "FormInlineLabel"
  | .formRadioWrapper => "FormRadioWrapper"
  | .formRadioInput => "FormRadioInput"
  | .formCheckboxWrapper => "FormCheckboxWrapper"
  | .formCheckboxInput => "FormCheckboxInput"
  | .formSuccessMessage => "FormSuccessMessage"
  | .formErrorMessage => "FormErrorMessage"
  | .custom => "DOM"

def ofName? (name : String) : Option NodeKind := all.find? fun kind => kind.name == name

def isForm (kind : NodeKind) : Bool := "Form".toList.isPrefixOf kind.name.toList

/-- The shape of the payload of a kind; custom elements have a payload of their own. -/
def shape? : NodeKind → Option PayloadShape
  | .block => some .textAndTag
  | .sectionBlock => some .textAndTag
  | .container => some .textAndTag
  | .htmlEmbed => some .textAndTag
  | .heading => some .tagOnly
  | .custom => none
  | _ => some .neither

end NodeKind

end PageClip
