import PageClip.Build
import PageClip.Markup.Query
import PageClip.Node.Attribute
import PageClip.Node.Kind
import PageClip.Text.Lowercase

/-!
# Payloads

The data of an element node. That of a standard element has a bag of attributes
that follows from the tag and further fields that follow from the kind; that of
a custom element keeps its attributes.
-/

namespace PageClip

/-- Named values in order. -/
abbrev Fields := List (String × Json)

structure ElementData where
  kind : NodeKind
  tag : String
  attributes : Fields
  extra : Fields

structure CustomData where
  tag : String
  attributes : List (String × String)
  deriving DecidableEq, Repr

inductive Payload where
  | standard (data : ElementData)
  | custom (data : CustomData)

namespace ElementData

def make (kind : NodeKind) (tag : String) (attributes extra : Fields) : Except Fault ElementData :=
  match kind.shape? with
  | some _ => .ok ⟨kind, tag, attributes, extra⟩
  | none => .error .noPayloadShape

def shapeFields (data : ElementData) : Fields :=
  match data.kind.shape? with
  | some .textAndTag => [("text", .bool false), ("tag", .string data.tag)]
  | some .tagOnly => [("tag", .string data.tag)]
  | _ => []

/-- The fields that every payload ends with. -/
def trailer (data : ElementData) : Fields := [
  ("devlink", .object [("runtimeProps", .emptyObject), ("slot", .string "")]),
  ("displayName", .string ""),
  ("search", .object [("exclude", .bool (data.kind = .formWrapper))]),
  ("visibility", .object [("conditions", .emptyArray)])]

def toJson (data : ElementData) : Json :=
  .object (Table.ofList
    ([("attr", .object data.attributes), ("xattr", .emptyArray)] ++ data.shapeFields ++ data.extra ++
      data.trailer))

end ElementData

def CustomData.toJson (data : CustomData) : Json :=
  .object [
    ("editable", .bool true),
    ("tag", .string data.tag),
    ("attributes", .array (data.attributes.map fun (name, value) =>
      .object [("name", .string name), ("value", .string value)]))]

def Payload.toJson : Payload → Json
  | .standard data => data.toJson
  | .custom data => data.toJson

/-! ### Attribute bags -/

namespace Attributes

variable (attributes : Attributes)

/-- A field that holds the text of the attribute of its name. -/
def copy (name : String) : String × Json := (name, .string (attributes.get name))

/-- A field that holds the text of the attribute of its name, or another text. -/
def copyOr (name fallback : String) : String × Json :=
  (name, .string (attributes.getOr name fallback))

/-- A field that tells whether the attribute of its name is there. -/
def present (name : String) : String × Json := (name, .bool (Table.has name attributes))

/-- The name under which data is kept: the attribute for it, or else the plain name. -/
def dataName : String × Json :=
  ("data-name", .string (attributes.getOr "data-name" (attributes.get "name")))

/-- A field with the greatest length of an entry. -/
def maxLength (fallback : Int) : Except Fault (String × Json) :=
  (leadingInteger (attributes.get "maxlength") fallback).map fun n => ("maxlength", .integer n)

def imageBag : Fields := [
  attributes.copyOr "width" "auto",
  attributes.copyOr "height" "auto",
  attributes.copy "alt",
  attributes.copy "src",
  ("loading", .string (if attributes.get "loading" = "eager" then "eager" else "lazy"))]

def formBag : Fields := [
  attributes.copy "name",
  attributes.dataName,
  attributes.copy "action",
  attributes.copyOr "method" "get",
  attributes.copy "redirect",
  attributes.copy "data-redirect"]

/-- The bag of an input, which ends in fields that follow from its type. -/
def inputBag : Except Fault Fields :=
  let type := attributes.getOr "type" "text"
  let shared : Fields := [
    ("type", .string type),
    attributes.copy "name",
    attributes.dataName,
    attributes.copy "placeholder",
    attributes.present "required",
    attributes.present "disabled",
    attributes.present "autofocus"]
  if type = "submit" || type = "button" then
    .ok (shared ++ [attributes.copyOr "value" "Submit",
      attributes.copyOr "data-wait" "Please wait..."])
  else if type = "radio" || type = "checkbox" then
    .ok (shared ++ [attributes.copy "value", attributes.present "checked"])
  else (attributes.maxLength 256).map fun field => shared ++ [field]

def textareaBag : Except Fault Fields :=
  (attributes.maxLength 5000).map fun field => [
    attributes.copy "name",
    attributes.dataName,
    attributes.copy "placeholder",
    attributes.present "required",
    attributes.present "autofocus",
    field]

def selectBag : Fields := [
  attributes.copy "name",
  attributes.dataName,
  attributes.present "required",
  attributes.present "multiple"]

def tagBag : String → Except Fault Fields
  | "img" => .ok attributes.imageBag
  | "form" => .ok attributes.formBag
  | "input" => attributes.inputBag
  | "textarea" => attributes.textareaBag
  | "select" => .ok attributes.selectBag
  | "button" => .ok [attributes.copyOr "type" "button"]
  | "label" => .ok [attributes.copy "for"]
  | _ => .ok []

/-- The bag of attributes of an element: its id, then what its tag adds. -/
def bag (tag : String) : Except Fault Fields :=
  (attributes.tagBag tag).map fun fields => attributes.copy "id" :: fields

/-! ### Fields of a kind -/

def nameOr (fallback : String) : String :=
  attributes.getOr "name" (attributes.getOr "id" fallback)

end Attributes

def optionJson (value text : String) : Json := .object [("v", .string value), ("t", .string text)]

def defaultOptions : List (String × String) :=
  [("", "Select one..."), ("Option 1", "Option 1")]

def optionOf (element : Markup.Element) : String × String :=
  let text := String.ofList (Markup.shownOf element.children)
  ((element.attribute? "value").getD text, text)

def selectOptions (element : Option Markup.Element) : List (String × String) :=
  let options := (element.map fun element =>
    (Markup.elementsNamed "option" element.children).map optionOf).getD []
  if options.isEmpty then defaultOptions else options

/-- The fields of a form part that has a type only. -/
def formPart (type : String) (more : Fields) : Fields :=
  [("form", .object (("type", .string type) :: more))]

def choicePart (type name : String) : Fields :=
  formPart type [("name", .string name)] ++ [("inputType", .string "custom")]

def linkFields (attributes : Attributes) : Fields :=
  let target := attributes.get "href"
  let external := "http".toList.isPrefixOf target.toList
  [("button", .bool (Text.has "button".toList (attributes.get "class").toList)),
    ("block", .string ""),
    ("link", .object [
      ("mode", .string (if external then "external" else "internal")),
      ("url", .string (if target.isEmpty then "#" else target))]),
    ("eventIds", .emptyArray)]

/-- The fields that the kind of an element adds to its payload. -/
def kindFields (kind : NodeKind) (attributes : Attributes) (element : Option Markup.Element) :
    Fields :=
  match kind with
  | .link => linkFields attributes
  | .image =>
    [("img", .object [("id", .string "")]), ("srcsetDisabled", .bool false), ("sizes", .emptyArray)]
  | .grid => [("grid", .string "two-by-two")]
  | .formWrapper => formPart "wrapper" []
  | .formForm =>
    formPart "form" [("name", .string (attributes.nameOr "Form"))] ++
      [("Source", .object [("tag", .string "Default form"), ("val", .emptyObject)])]
  | .formButton =>
    [("style", .object [("base", .object [("main", .object [("noPseudo", .object [
        ("justifySelf", .string "start")])])])]),
      ("form", .object [("type", .string "button")]),
      ("eventIds", .emptyArray)]
  | .formTextInput =>
    formPart "input"
      [("name", .string (attributes.nameOr "Field")), ("passwordPage", .bool false)]
  | .formTextarea => formPart "textarea" [("name", .string (attributes.nameOr "Message"))]
  | .formSelect =>
    formPart "select" [
      ("opts", .array ((selectOptions element).map fun (value, text) => optionJson value text)),
      ("name", .string (attributes.nameOr "Select"))]
  | .formBlockLabel => formPart "label" [("passwordPage", .bool false)]
  | .formInlineLabel => formPart "radio-label" []
  | .formRadioInput => choicePart "radio-input" (attributes.getOr "name" "Radio")
  | .formCheckboxInput => choicePart "checkbox-input" (attributes.getOr "name" "Checkbox")
  | .formRadioWrapper => formPart "radio" []
  | .formCheckboxWrapper => formPart "checkbox" []
  | .formSuccessMessage => formPart "msg-done" []
  | .formErrorMessage => formPart "msg-fail" []
  | _ => []

/-- The attributes that a custom element keeps; an empty one becomes a blank. -/
def customAttributes (attributes : Attributes) : List (String × String) :=
  (attributes.filter fun (name, _) => name ≠ "class" && name ≠ "id").map fun (name, value) =>
    (name, if value.toText.isEmpty then " " else value.toText)

/-- The payload of an element; `element` is where the options of a choice are read. -/
def payload (tag : String) (kind : NodeKind) (attributes : Attributes)
    (element : Option Markup.Element) : Build Payload :=
  if kind = .custom then do
    Build.note (.customElement tag)
    pure (.custom ⟨tag, customAttributes attributes⟩)
  else do
    let bag ← Build.ofExcept (attributes.bag tag)
    let data ← Build.ofExcept (ElementData.make kind tag bag (kindFields kind attributes element))
    pure (.standard data)

end PageClip
