import PageClip.Proofs.Clipboard
import PageClip.Proofs.Tree.Outcome

/-!
# Types of inputs

The kind of an input in a form hangs on its type in lower case, the fields of its
bag on its type as written. `inputBag_suits_iff` says when the two go together.
-/

namespace PageClip

/-- The fields that the bag of an input of a kind has besides those of all inputs. -/
def NodeKind.ownFields : NodeKind → List String
  | .formButton => ["value", "data-wait"]
  | .formRadioInput => ["value", "checked"]
  | .formCheckboxInput => ["value", "checked"]
  | .formTextInput => ["maxlength"]
  | _ => []

/-- The fields of inputs of this kind are in a bag, and none that only inputs of other kinds have. -/
def NodeKind.Suits (kind : NodeKind) (bag : Fields) : Prop :=
  ∀ field ∈ ["value", "data-wait", "checked", "maxlength"],
    field ∈ bag.map Prod.fst ↔ field ∈ kind.ownFields

/-- The type of an input as it is written, `text` where none is given. -/
def writtenType (attributes : List (String × String)) : String :=
  Attributes.getOr "type" "text" (.ofTexts attributes)

def sharedFields : List String :=
  ["type", "name", "data-name", "placeholder", "required", "disabled", "autofocus"]

/-! ### Types -/

theorem lowercase_of_mem_lengthlessTypes {type : String} (member : type ∈ lengthlessTypes) :
    lowercase type = type := by
  simp only [lengthlessTypes, List.mem_cons, List.not_mem_nil, or_false] at member
  rcases member with rfl | rfl | rfl | rfl <;> decide

theorem NodeKind.ofInputType_of_not_mem {type : String} (other : type ∉ lengthlessTypes) :
    ofInputType type = .formTextInput := by
  unfold ofInputType
  split
  case h_5 => rfl
  all_goals exact absurd (by decide) other

theorem writtenType_eq (element : Markup.Element) :
    writtenType element.attributes =
      if ((element.attribute? "type").getD "").isEmpty then "text"
      else (element.attribute? "type").getD "" := by
  rw [writtenType, Attributes.getOr, Attributes.get_ofTexts]

/-- Inputs that are no entries of text have fields that an entry does not have. -/
theorem NodeKind.value_mem_ownFields {type : String} (member : type ∈ lengthlessTypes) :
    "value" ∈ (ofInputType type).ownFields := by
  simp only [lengthlessTypes, List.mem_cons, List.not_mem_nil, or_false] at member
  rcases member with rfl | rfl | rfl | rfl <;> decide

theorem classify_input (attributes : List (String × String)) :
    classify "input" (.ofTexts attributes) true =
      .ok (.ofInputType (lowercase (writtenType attributes))) := by
  have input : lowercase "input" = "input" := by decide
  have empty : NodeKind.ofInputType (lowercase "") = .ofInputType (lowercase "text") := by decide
  have kind := Tree.ofInputType_inputType ⟨"input", attributes, []⟩
  rw [classify, input, if_pos rfl, if_pos rfl, kind, writtenType_eq ⟨"input", attributes, []⟩]
  cases Markup.Element.attribute? "type" ⟨"input", attributes, []⟩ with
  | none => rfl
  | some type =>
    by_cases blank : type = ""
    · subst blank
      exact congrArg Except.ok empty
    · simp [blank]

/-! ### Bags -/

theorem Attributes.names_inputBag {attributes : Attributes} {bag : Fields}
    (made : attributes.inputBag = .ok bag) :
    bag.map Prod.fst =
      sharedFields ++ (NodeKind.ofInputType (attributes.getOr "type" "text")).ownFields := by
  unfold inputBag at made
  generalize attributes.getOr "type" "text" = type at made
  dsimp only at made
  split at made
  · next button =>
    obtain rfl := Except.ok.inj made
    simp only [Bool.or_eq_true, decide_eq_true_eq] at button
    rcases button with rfl | rfl <;> rfl
  split at made
  · next choice =>
    obtain rfl := Except.ok.inj made
    simp only [Bool.or_eq_true, decide_eq_true_eq] at choice
    rcases choice with rfl | rfl <;> rfl
  · next noButton noChoice =>
    have other : type ∉ lengthlessTypes := by
      simpa [lengthlessTypes, and_assoc] using And.intro noButton noChoice
    rw [NodeKind.ofInputType_of_not_mem other]
    cases read : attributes.maxLength 256 with
    | error fault => rw [read] at made; cases made
    | ok field =>
      rw [read] at made
      obtain rfl := Except.ok.inj made
      obtain ⟨n, rfl⟩ := attributes.exists_maxLength read
      rfl

theorem Attributes.names_bag {attributes : Attributes} {bag : Fields}
    (made : attributes.bag "input" = .ok bag) :
    bag.map Prod.fst =
      "id" :: sharedFields ++ (NodeKind.ofInputType (attributes.getOr "type" "text")).ownFields := by
  unfold Attributes.bag at made
  cases own : attributes.tagBag "input" with
  | error fault => rw [own] at made; cases made
  | ok fields =>
    rw [own] at made
    obtain rfl := Except.ok.inj made
    rw [List.map_cons, names_inputBag own]
    rfl

theorem hasReadableLength_input (attributes : List (String × String)) :
    Markup.Element.HasReadableLength ⟨"input", attributes, []⟩ ↔
      (writtenType attributes ∉ lengthlessTypes →
        Decimal.Readable (Attributes.get "maxlength" (.ofTexts attributes)).toList) := by
  have input : lowercase "input" = "input" := by decide
  have kept : Markup.Element.hasLength ⟨"input", attributes, []⟩ =
      !lengthlessTypes.contains (writtenType attributes) := Attributes.hasLength_input input
  rw [Markup.Element.HasReadableLength, kept, Attributes.get_ofTexts _ ⟨"input", attributes, []⟩]
  simp

theorem bag_input_valueWhere (attributes : List (String × String)) :
    ValueWhere .unreadableInteger
      (writtenType attributes ∉ lengthlessTypes →
        Decimal.Readable (Attributes.get "maxlength" (.ofTexts attributes)).toList)
      (Attributes.bag (.ofTexts attributes) "input") := by
  have returns := Attributes.bag_valueWhere ⟨"input", attributes, []⟩
  rw [show lowercase "input" = "input" by decide] at returns
  exact returns.congr (hasReadableLength_input attributes)

theorem suits_iff {kind : NodeKind} {bag : Fields} {own : List String}
    (names : bag.map Prod.fst = "id" :: sharedFields ++ own) :
    kind.Suits bag ↔ ∀ field ∈ ["value", "data-wait", "checked", "maxlength"],
      field ∈ own ↔ field ∈ kind.ownFields := by
  have apart : ∀ field ∈ ["value", "data-wait", "checked", "maxlength"],
      field ∉ "id" :: sharedFields := by decide
  refine forall₂_congr fun field listed => ?_
  rw [names, List.mem_append, or_iff_right (apart field listed)]

/-- The bag of an input has the fields of its type as written. They are those of the kind of its
node unless the type is written with capitals and names a button or a choice. -/
theorem inputBag_suits_iff (attributes : List (String × String)) :
    classify "input" (.ofTexts attributes) true =
        .ok (.ofInputType (lowercase (writtenType attributes))) ∧
      ValueWhere .unreadableInteger
        (writtenType attributes ∉ lengthlessTypes →
          Decimal.Readable (Attributes.get "maxlength" (.ofTexts attributes)).toList)
        (Attributes.bag (.ofTexts attributes) "input") ∧
      ∀ bag, Attributes.bag (.ofTexts attributes) "input" = .ok bag →
        (NodeKind.ofInputType (writtenType attributes)).Suits bag ∧
          ((NodeKind.ofInputType (lowercase (writtenType attributes))).Suits bag ↔
            (lowercase (writtenType attributes) ∈ lengthlessTypes →
              lowercase (writtenType attributes) = writtenType attributes)) := by
  refine ⟨classify_input attributes, bag_input_valueWhere attributes, fun bag made => ?_⟩
  have names := Attributes.names_bag made
  rw [← writtenType] at names
  generalize writtenType attributes = type at names
  refine ⟨(suits_iff names).mpr fun _ _ => Iff.rfl, ?_⟩
  rw [suits_iff names]
  by_cases member : type ∈ lengthlessTypes
  · simp [lowercase_of_mem_lengthlessTypes member]
  rw [NodeKind.ofInputType_of_not_mem member]
  by_cases low : lowercase type ∈ lengthlessTypes
  · constructor
    · intro suits
      have value := (suits "value" (by decide)).mpr (NodeKind.value_mem_ownFields low)
      exact absurd value (by decide)
    · intro same
      exact absurd (same low ▸ low) member
  · simp [NodeKind.ofInputType_of_not_mem low, low]

/-- A button in capitals has the fields of an entry of text. -/
theorem inputBag_capitals :
    classify "input" (.ofTexts [("type", "SUBMIT")]) true = .ok .formButton ∧
      ∃ bag, Attributes.bag (.ofTexts [("type", "SUBMIT")]) "input" = .ok bag ∧
        "maxlength" ∈ bag.map Prod.fst ∧ "value" ∉ bag.map Prod.fst := by
  refine ⟨by decide +kernel, _, rfl, ?_⟩
  decide +kernel

end PageClip
