import PageClip.Proofs.Decimal.Numeral
import PageClip.Proofs.Tree.FormContext

/-!
# Pages that are refused

Compiling a page ends in a fault where an entry asks for a greatest length that begins with
an integer which is refused. `compileDocument_outcome` says that nowhere else it does: each
element has a kind, each kind a payload, and no node is without id or text.
-/

namespace PageClip

open Markup PageClip.Tree

/-! ### Greatest lengths -/

/-- The types of input that are no entries of text. -/
def lengthlessTypes : List String := ["submit", "button", "radio", "checkbox"]

namespace Markup.Element

/-- Whether an element is an entry whose greatest length is kept. -/
def hasLength (element : Element) : Bool :=
  match lowercase element.name with
  | "textarea" => true
  | "input" => !lengthlessTypes.contains ((element.attribute? "type").getD "")
  | _ => false

/-- Whether the greatest length that an element asks for, if it is kept, is not refused. -/
def HasReadableLength (element : Element) : Prop :=
  element.hasLength → Decimal.Readable ((element.attribute? "maxlength").getD "").toList

theorem hasReadableLength_of_none {element : Element} (none : element.hasLength = false) :
    element.HasReadableLength := by
  intro kept
  rw [none] at kept
  cases kept

end Markup.Element

namespace Attributes

theorem get_ofTexts (name : String) (element : Element) :
    get name (.ofTexts element.attributes) = (element.attribute? name).getD "" := by
  rw [get, Tree.find?_ofTexts, Element.attribute?]
  cases Table.find? name element.attributes <;> rfl

theorem maxLength_valueWhere {element : Element} (kept : element.hasLength) (fallback : Int) :
    ValueWhere .unreadableInteger element.HasReadableLength
      (maxLength (.ofTexts element.attributes) fallback) := by
  have same : Decimal.Readable ((element.attribute? "maxlength").getD "").toList ↔
      element.HasReadableLength := ⟨fun readable _ => readable, fun readable => readable kept⟩
  rw [maxLength, get_ofTexts]
  exact ((leadingInteger_valueWhere _ _).map _).congr same

theorem hasLength_input {element : Element} (input : lowercase element.name = "input") :
    element.hasLength =
      !lengthlessTypes.contains (getOr "type" "text" (.ofTexts element.attributes)) := by
  simp only [Element.hasLength, input, getOr, get_ofTexts]
  split
  · next empty =>
    rw [String.isEmpty_iff.mp empty]
    decide
  · rfl

theorem inputBag_valueWhere {element : Element} (input : lowercase element.name = "input") :
    ValueWhere .unreadableInteger element.HasReadableLength
      (inputBag (.ofTexts element.attributes)) := by
  have kept := hasLength_input input
  unfold inputBag
  generalize getOr "type" "text" (.ofTexts element.attributes) = type at kept
  dsimp only
  split
  · next button =>
    simp only [Bool.or_eq_true, decide_eq_true_eq] at button
    refine .ok (Element.hasReadableLength_of_none ?_) _
    rw [kept]
    rcases button with rfl | rfl <;> decide
  split
  · next choice =>
    simp only [Bool.or_eq_true, decide_eq_true_eq] at choice
    refine .ok (Element.hasReadableLength_of_none ?_) _
    rw [kept]
    rcases choice with rfl | rfl <;> decide
  · next noButton noChoice =>
    simp only [Bool.or_eq_true, decide_eq_true_eq, not_or] at noButton noChoice
    refine ValueWhere.map (maxLength_valueWhere ?_ 256) _
    simp [kept, lengthlessTypes, noButton, noChoice]

theorem bag_valueWhere (element : Element) :
    ValueWhere .unreadableInteger element.HasReadableLength
      (bag (.ofTexts element.attributes) (lowercase element.name)) := by
  refine ValueWhere.map ?_ _
  by_cases textarea : lowercase element.name = "textarea"
  · rw [textarea]
    exact ValueWhere.map (maxLength_valueWhere (by simp [Element.hasLength, textarea]) 5000) _
  by_cases input : lowercase element.name = "input"
  · rw [input]
    exact inputBag_valueWhere input
  -- No other bag has a number in it.
  have none : element.hasLength = false := by
    unfold Element.hasLength
    split <;> simp_all
  unfold tagBag
  split
  case h_3 tag named => exact absurd named input
  case h_4 tag named => exact absurd named textarea
  all_goals exact .ok (Element.hasReadableLength_of_none none) _

end Attributes

/-! ### Elements -/

theorem NodeKind.ofInputType_ne_custom (type : String) : NodeKind.ofInputType type ≠ .custom := by
  unfold NodeKind.ofInputType
  split <;> simp

/-- An entry is never custom, so that its bag is always asked for. -/
theorem Markup.Element.hasLength_of_custom {element : Element} {insideForm : Bool}
    (custom : element.kindWithin insideForm = .custom) : element.hasLength = false := by
  unfold Element.hasLength
  split
  · next textarea =>
    have field : fieldKind? "textarea" element = some .formTextarea := rfl
    rw [Element.kindWithin, textarea, field] at custom
    cases insideForm <;> simp at custom
  · next input =>
    rw [Element.kindWithin, fieldKind?, if_pos input] at custom
    cases insideForm with
    | false => simp at custom
    | true => exact absurd custom (NodeKind.ofInputType_ne_custom _)
  · rfl

theorem NodeKind.exists_shape {kind : NodeKind} (standard : kind ≠ .custom) :
    ∃ shape, kind.shape? = some shape := by
  cases kind
  case custom => exact absurd rfl standard
  all_goals exact ⟨_, rfl⟩

theorem ElementData.make_valueWhere {kind : NodeKind} (standard : kind ≠ .custom) (tag : String)
    (attributes extra : Fields) :
    ValueWhere .unreadableInteger True (ElementData.make kind tag attributes extra) := by
  obtain ⟨shape, shaped⟩ := NodeKind.exists_shape standard
  rw [make, shaped]
  exact .ok trivial _

theorem payload_returnsWhere (ids : IdSource) (element : Element) (insideForm : Bool) :
    Build.ReturnsWhere ids .unreadableInteger element.HasReadableLength
      (payload (lowercase element.name) (element.kindWithin insideForm)
        (.ofTexts element.attributes) (some element)) := by
  unfold payload
  split
  · next custom =>
    have readable := Element.hasReadableLength_of_none (Element.hasLength_of_custom custom)
    exact (Build.ReturnsWhere.bind (.note _) fun _ _ _ _ => .pure _).congr (by simp [readable])
  · next standard =>
    refine Build.ReturnsWhere.congr (.bind (.ofExcept (Attributes.bag_valueWhere element)) fun _ bag _ _ =>
      .bind (.ofExcept (ElementData.make_valueWhere standard _ bag _)) fun _ _ _ _ => .pure _) ?_
    rw [and_self, and_true]

/-! ### Nodes -/

namespace Tree

variable {ids : IdSource}

theorem elementNode_returnsWhere (classIds : ClassIds) (element : Element) (insideForm : Bool)
    {id : String} (filled : id ≠ "") (childIds : List String) :
    Build.ReturnsWhere ids .unreadableInteger element.HasReadableLength
      (elementNode classIds element insideForm id childIds) := by
  unfold elementNode
  dsimp only
  rw [classify_element]
  have parts : True ∧ element.HasReadableLength ∧ True ↔ element.HasReadableLength := by simp
  refine Build.ReturnsWhere.congr (.bind (.ofExcept (.ok trivial _)) ?_) parts
  intro _ kind _ classified
  obtain rfl := Except.ok.inj (Build.ofExcept_ok classified).1
  refine .bind (payload_returnsWhere ids element insideForm) fun _ data _ _ => .ofExcept ?_
  rw [ElementNode.make, if_neg (by simpa using filled)]
  exact .ok trivial _

theorem textNode_valueWhere {id : String} (filled : id ≠ "") {content : Text}
    (solid : Text.trim content ≠ []) :
    ValueWhere .unreadableInteger True (TextNode.make ⟨id, String.ofList (Text.trim content)⟩) := by
  have still : (Text.trim (String.ofList (Text.trim content)).toList).isEmpty = false := by
    rw [String.toList_ofList, Text.trim_trim, List.isEmpty_eq_false_iff]
    exact solid
  rw [TextNode.make, if_neg (by simpa using filled), if_neg (by rw [still]; decide)]
  exact .ok trivial _

/-- Items are compiled exactly if no length that is kept among or inside them is refused. -/
theorem compileItems_returnsWhere (filled : ∀ n, ids n ≠ "") (classIds : ClassIds)
    (insideForm : Bool) (items : List Item) :
    Build.ReturnsWhere ids .unreadableInteger
      (∀ element ∈ elementsOf items, element.HasReadableLength)
      (compileItems classIds insideForm items) := by
  have drawn {ledger after : Ledger} {id : String}
      (drew : Build.newId.run ids ledger = (.ok id, after)) : id ≠ "" := by
    rw [(Build.newId_ok drew).1]
    exact filled _
  induction items using items_induction generalizing insideForm with
  | nil =>
    rw [compileItems]
    exact (Build.ReturnsWhere.pure _).congr (by simp [elementsOf])
  | text kind content rest ih =>
    have own : Build.ReturnsWhere ids .unreadableInteger True
        (compileItem classIds insideForm (.text kind content)) := by
      rw [compileItem]
      split
      · next kept =>
        simp only [Bool.and_eq_true, Bool.not_eq_true', List.isEmpty_eq_false_iff] at kept
        refine Build.ReturnsWhere.congr (.bind .newId fun _ id _ drew => .bind (.ofExcept
          (textNode_valueWhere (drawn drew) kept.2)) fun _ _ _ _ => .pure _) (by simp)
      · exact .pure _
    rw [compileItems]
    refine Build.ReturnsWhere.congr (.bind own fun _ _ _ _ => .bind (ih insideForm)
      fun _ _ _ _ => .pure _) ?_
    simp [elementsOf, Item.elements]
  | element name attributes children rest ihBelow ihRest =>
    have own : Build.ReturnsWhere ids .unreadableInteger
        ((∀ element ∈ elementsOf children, element.HasReadableLength) ∧
          Element.HasReadableLength ⟨name, attributes, children⟩)
        (compileItem classIds insideForm (.element name attributes children)) := by
      rw [compileItem]
      refine Build.ReturnsWhere.congr (.bind .newId fun _ id _ drew => .bind (ihBelow _)
        fun _ below _ _ => .bind (elementNode_returnsWhere classIds _ insideForm (drawn drew) _)
        fun _ _ _ _ => .pure _) (by simp)
    rw [compileItems]
    refine Build.ReturnsWhere.congr (.bind own fun _ _ _ _ => .bind (ihRest insideForm)
      fun _ _ _ _ => .pure _) ?_
    rw [elementsOf, Item.elements, List.forall_mem_append, List.forall_mem_cons, and_true]
    exact and_congr_left fun _ => and_comm

/-- A document is compiled exactly if no element in its page zone asks for a greatest length that is
refused, whatever the tags and the other attributes, and there is no other fault. -/
theorem compileDocument_outcome (filled : ∀ n, ids n ≠ "") (classIds : ClassIds)
    (document : Document) (ledger : Ledger) :
    ((∃ tree after, (compileDocument classIds document).run ids ledger = (.ok tree, after)) ↔
        ∀ place ∈ compiledPlaces document, place.element.HasReadableLength) ∧
      ∀ fault after, (compileDocument classIds document).run ids ledger = (.error fault, after) →
        fault = .unreadableInteger := by
  have returns : Build.ReturnsWhere ids .unreadableInteger
      (∀ place ∈ compiledPlaces document, place.element.HasReadableLength)
      (compileDocument classIds document) := by
    rw [compileDocument_eq, compileByRecursion]
    refine Build.ReturnsWhere.congr (.bind (compileItems_returnsWhere filled classIds false _)
      fun _ _ _ _ => .bind (.note _) fun _ _ _ _ => .pure _) ?_
    rw [← map_element_compiledPlaces, List.forall_mem_map, and_true, and_true]
  refine ⟨returns.returns_iff ledger, ?_⟩
  intro fault after ran
  exact returns.eq_fault ran

/-- Lengths that are refused, on elements of which none is kept or that are not in the page. -/
def oddPage : Document := [
  .element "HEAD" [("maxlength", "\x1c5")] [],
  .element "body" [] [
    .element "script" [] [.element "textarea" [("maxlength", "\x1c5")] []],
    .element "blink" [("maxlength", "\x1c5"), ("", "")] [
      .text .cdata ['x'], .text .plain [' '],
      .element "INPUT" [("type", "radio"), ("maxlength", "\x1c5")] [],
      .element "input" [("type", "Radio"), ("maxlength", " +12px")] []],
    .element "form" [] [.element "textarea" [("maxlength", "\u0663")] [.text .plain ['x']]]]]

theorem compileDocument_outcome_oddPage :
    (∀ n, IdSource.tally n ≠ "") ∧
      (∃ tree after, (compileDocument [("a", "s")] oddPage).run .tally .fresh = (.ok tree, after)) ∧
      ∀ place ∈ compiledPlaces oddPage, place.element.HasReadableLength := by
  have returns : ((compileDocument [("a", "s")] oddPage).run .tally .fresh).1.map
      (fun tree => tree.nodes.length) = .ok 6 := by decide +kernel
  obtain ⟨tree, after, outcome, -⟩ := Build.exists_of_map_eq returns
  have all := (compileDocument_outcome IdSource.tally_filled [("a", "s")] oddPage .fresh).1
  exact ⟨IdSource.tally_filled, ⟨tree, after, outcome⟩, all.mp ⟨tree, after, outcome⟩⟩

/-- A separator in front of a number is a blank to the scan for the number and none to its reading. -/
def separatedPage : String := "<textarea maxlength=\"\x1c5\"></textarea>"

theorem compile_separatedPage :
    (∀ n, IdSource.tally n ≠ "") ∧
      ((compile "html.parser" [] separatedPage).run .tally .fresh).1 = .error .unreadableInteger := by
  have refused : ((compile "html.parser" [] separatedPage).run .tally .fresh).1.map (fun _ => ()) =
      .error .unreadableInteger := by decide +kernel
  refine ⟨IdSource.tally_filled, ?_⟩
  generalize ((compile "html.parser" [] separatedPage).run .tally .fresh).1 = outcome at refused ⊢
  cases outcome with
  | error fault => exact congrArg Except.error (Except.error.inj refused)
  | ok tree => cases refused

end Tree

end PageClip
