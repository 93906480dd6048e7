import PageClip.Proofs.Build
import PageClip.Proofs.Text.Lowercase
import PageClip.Proofs.Tree.Place

/-!
# Forms around elements

The kind of a node hangs on the element that it is made from and on whether a
form stands anywhere around that element, be it in the shell or in the page.
-/

namespace PageClip

open Markup

/-- The kind of field that an element with the tag of a form field is. -/
def fieldKind? (tag : String) (element : Element) : Option NodeKind :=
  if tag = "input" then
    some (.ofInputType (lowercase ((element.attribute? "type").getD "text")))
  else NodeKind.fieldTags.lookup tag

/-- The kind of node that an element becomes; that of a field hangs on whether a form is around it. -/
def Markup.Element.kindWithin (insideForm : Bool) (element : Element) : NodeKind :=
  match fieldKind? (lowercase element.name) element with
  | some field => if insideForm then field else .block
  | none => (NodeKind.tags.lookup (lowercase element.name)).getD .custom

namespace Tree

def Place.kind (place : Place) : NodeKind := place.element.kindWithin place.insideForm

theorem find?_ofTexts (name : String) (attributes : List (String × String)) :
    Table.find? name (Attributes.ofTexts attributes) =
      (Table.find? name attributes).map AttributeValue.text := by
  induction attributes with
  | nil => rfl
  | cons first rest ih =>
    show Table.find? name ((first.1, .text first.2) :: Attributes.ofTexts rest) = _
    unfold Table.find?
    split
    · rfl
    · exact ih

theorem ofInputType_inputType (element : Element) :
    (inputType (.ofTexts element.attributes)).map NodeKind.ofInputType =
      .ok (.ofInputType (lowercase ((element.attribute? "type").getD "text"))) := by
  have usual : NodeKind.ofInputType "text" = .ofInputType (lowercase "text") := by decide
  have empty : NodeKind.ofInputType "text" = .ofInputType (lowercase "") := by decide
  unfold inputType Element.attribute?
  rw [find?_ofTexts]
  cases given : Table.find? "type" element.attributes with
  | none => exact congrArg Except.ok usual
  | some value =>
    by_cases blank : value = ""
    · subst blank
      exact congrArg Except.ok empty
    · simp [AttributeValue.isFilled, blank, Except.map]

theorem classify_element (element : Element) (insideForm : Bool) :
    classify (lowercase element.name) (.ofTexts element.attributes) insideForm =
      .ok (element.kindWithin insideForm) := by
  unfold classify Element.kindWithin fieldKind?
  rw [lowercase_lowercase]
  dsimp only
  split
  · split
    · exact ofInputType_inputType element
    · rfl
  · cases NodeKind.fieldTags.lookup (lowercase element.name) <;> rfl

theorem classify_place (place : Place) :
    classify place.tag (.ofTexts place.element.attributes) place.insideForm = .ok place.kind :=
  classify_element place.element place.insideForm

/-- The element nodes of a tree are, in order, made from the elements in the page zone of the
document, each of the kind that its place gives. -/
theorem compileDocument_kind {classIds : ClassIds} {document : Document} {ids : IdSource}
    {ledger after : Ledger} {tree : Tree}
    (h : (compileDocument classIds document).run ids ledger = (.ok tree, after)) :
    List.Forall₂ (fun node place => node.tag = place.tag ∧ node.kind = place.kind) tree.elements
      (compiledPlaces document) := by
  refine (compileDocument_nodeAt h).imp ?_
  intro node place made
  have kind := made.kind
  rw [classify_place] at kind
  exact ⟨made.tag, (Except.ok.inj kind).symm⟩

/-- A form in the head of a page does nothing to the body behind it; one around a field does,
however far out. -/
def formPage : Document :=
  [.element "html" [] [
    .element "head" [] [.element "form" [] [.element "INPUT" [("type", "Radio")] []]],
    .element "body" [] [
      .element "input" [] [],
      .element "form" [] [.element "p" [] [.element "label" [] [], .element "svg" [] []]],
      .element "select" [] []]]]

theorem compileDocument_kind_formPage :
    ∃ tree after, (compileDocument [] formPage).run .tally .fresh = (.ok tree, after) ∧
      tree.elements.map ElementNode.kind = [.formForm, .formRadioInput, .block, .formForm, .paragraph,
        .formBlockLabel, .custom, .block] ∧
      List.Forall₂ (fun node place => node.tag = place.tag ∧ node.kind = place.kind) tree.elements
        (compiledPlaces formPage) := by
  have kinds : ((compileDocument [] formPage).run .tally .fresh).1.map
      (fun tree => tree.elements.map ElementNode.kind) = .ok [.formForm, .formRadioInput, .block,
        .formForm, .paragraph, .formBlockLabel, .custom, .block] := by decide +kernel
  rcases outcome : (compileDocument [] formPage).run .tally .fresh with ⟨fault | tree, after⟩
  · rw [outcome] at kinds
    cases kinds
  · rw [outcome] at kinds
    exact ⟨tree, after, rfl, Except.ok.inj kinds, compileDocument_kind outcome⟩

end Tree

end PageClip
