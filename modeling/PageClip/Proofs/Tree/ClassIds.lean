import PageClip.Proofs.FirstSeen
import PageClip.Proofs.Tree.FormContext

/-!
# Style ids for the classes of a page

Classes are looked for in the whole document, nodes are made from a part of it. Every
class of a node therefore has an id, and `compileDocumentDiscovering_keepsClasses` says
which.
-/

namespace PageClip

open Markup

/-- What an element has for its classes, as written. -/
def Markup.Element.classTokens (element : Element) : List String :=
  (Text.words ((element.attribute? "class").getD "").toList).map String.ofList

namespace Tree

/-! ### Classes of elements -/

theorem classNames_text (value : String) :
    (AttributeValue.text value).classNames = (Text.words value.toList).map String.ofList := by
  by_cases empty : value = ""
  · subst empty
    rfl
  · simp [AttributeValue.classNames, AttributeValue.isFilled, AttributeValue.toText, empty]

theorem classTokens_eq (element : Element) :
    ((element.attribute? "class").map fun value => (AttributeValue.text value).classNames).getD [] =
      element.classTokens := by
  unfold Element.classTokens
  cases element.attribute? "class" with
  | none => rfl
  | some value => exact classNames_text value

theorem discoverClasses_eq (document : Document) :
    discoverClasses document = ((elementsOf document).flatMap Element.classTokens).eraseDups := by
  unfold discoverClasses
  simp only [classTokens_eq]

theorem styleIds_eq (classIds : ClassIds) (element : Element) :
    styleIds classIds (.ofTexts element.attributes) =
      element.classTokens.filterMap fun token => Table.find? token classIds := by
  rw [styleIds, find?_ofTexts, Option.map_map]
  exact congrArg _ (classTokens_eq element)

/-- Where each name is in a table, none is dropped when the values are looked up. -/
theorem forall₂_filterMap_find? {classIds : ClassIds} {names : List String}
    (known : ∀ name ∈ names, name ∈ Table.keys classIds) :
    List.Forall₂ (fun id name => (name, id) ∈ classIds)
      (names.filterMap fun name => Table.find? name classIds) names := by
  induction names with
  | nil => exact .nil
  | cons name names ih =>
    obtain ⟨here, later⟩ := List.forall_mem_cons.mp known
    obtain ⟨id, found⟩ := Option.isSome_iff_exists.mp (Table.find?_isSome_iff.mpr here)
    rw [List.filterMap_cons, found]
    exact .cons (Table.mem_of_find? found) (ih later)

/-! ### Drawing ids -/

theorem drawIds_ok {names : List String} {ids : IdSource} {ledger after : Ledger}
    {classIds : ClassIds} (h : (drawIds names).run ids ledger = (.ok classIds, after)) :
    Table.keys classIds = names ∧
      classIds.map Prod.snd = (List.range' ledger.drawn classIds.length).map ids ∧
      after.drawn = ledger.drawn + classIds.length := by
  induction names generalizing ledger classIds with
  | nil =>
    rw [drawIds] at h
    obtain ⟨rfl, rfl⟩ := Build.pure_ok h
    exact ⟨rfl, rfl, rfl⟩
  | cons name rest ih =>
    rw [drawIds] at h
    obtain ⟨id, _, drew, h⟩ := Build.bind_ok h
    obtain ⟨rfl, next⟩ := Build.newId_ok drew
    obtain ⟨more, _, ran, h⟩ := Build.bind_ok h
    obtain ⟨rfl, rfl⟩ := Build.pure_ok h
    obtain ⟨named, listed, drawn⟩ := ih ran
    rw [next] at listed drawn
    refine ⟨congrArg (List.cons name) named, ?_, ?_⟩
    · rw [List.map_cons, List.length_cons, List.range'_succ, List.map_cons, listed]
    · rw [drawn, List.length_cons]
      omega

/-! ### Pages -/

/-- A tree in which each class of the document has a style id and each element node refers to all
classes of the element that it is made from. The source has handed out `first` ids before. -/
structure KeepsClasses (document : Document) (ids : IdSource) (first : Nat) (tree : Tree) :
    Prop where
  keys : FirstSeen ((elementsOf document).flatMap Element.classTokens) (Table.keys tree.classIds)
  drawn : tree.classIds.map Prod.snd = (List.range' first tree.classIds.length).map ids
  kept : List.Forall₂
    (fun node place => node.tag = place.tag ∧
      List.Forall₂ (fun id token => (token, id) ∈ tree.classIds) node.classes
        place.element.classTokens)
    tree.elements (compiledPlaces document)
  apart : ∀ entry ∈ tree.classIds, entry.2 ∉ tree.nodes.map Node.id

theorem mem_elementsOf_of_compiled {document : Document} {place : Place}
    (member : place ∈ compiledPlaces document) : place.element ∈ elementsOf document := by
  rw [← map_element_placesIn []]
  exact List.mem_map_of_mem (List.mem_filter.mp member).1

/-- A page that is compiled without a stylesheet loses none of its classes. A source that hands out
an empty id leads to a fault. -/
theorem compileDocumentDiscovering_keepsClasses {document : Document} {ids : IdSource}
    {ledger after : Ledger} {tree : Tree} (distinct : Function.Injective ids)
    (h : (compileDocumentDiscovering document).run ids ledger = (.ok tree, after)) :
    KeepsClasses document ids ledger.drawn tree := by
  unfold compileDocumentDiscovering at h
  obtain ⟨classIds, mid, drew, h⟩ := Build.bind_ok h
  obtain ⟨compiled, _, ran, h⟩ := Build.bind_ok h
  obtain ⟨rfl, rfl⟩ := Build.pure_ok h
  obtain ⟨named, listed, drawn⟩ := drawIds_ok drew
  have keys : FirstSeen ((elementsOf document).flatMap Element.classTokens)
      (Table.keys classIds) := by
    rw [named, discoverClasses_eq]
    exact firstSeen_eraseDups _
  refine ⟨keys, listed, ?_, ?_⟩
  · have known : ∀ place ∈ compiledPlaces document, ∀ token ∈ place.element.classTokens,
        token ∈ Table.keys classIds := fun place member token written =>
      (keys.mem_iff token).mpr
        (List.mem_flatMap.mpr ⟨_, mem_elementsOf_of_compiled member, written⟩)
    refine ((List.forall₂_and_left _ _).mpr ⟨known, (compileDocument_nodeAt ran).flip⟩).flip.imp ?_
    rintro node place ⟨all, made⟩
    refine ⟨made.tag, ?_⟩
    rw [made.classes, styleIds_eq]
    exact forall₂_filterMap_find? all
  · have once : (classIds.map Prod.snd ++ compiled.nodes.map Node.id).Nodup := by
      rw [listed, (compiled_of_compileDocument ran).1.map_id, drawn, ← List.map_append,
        List.range'_append_1]
      exact List.Nodup.map distinct List.nodup_range'
    intro entry member taken
    exact (List.nodup_append.mp once).2.2 _ (List.mem_map_of_mem member) _ taken rfl

/-- Classes stand on the shell, in it and on what is left out of a body; two are written twice. -/
def classedPage : Document :=
  [.element "html" [("class", "page dark")] [
    .element "head" [] [.element "MAIN" [("class", " a\tb a ")] []],
    .element "body" [("class", "dark")] [
      .element "script" [("class", "late")] [],
      .element "div" [("class", "b new")] [.element "p" [("class", "")] [], .text .plain ['x']],
      .element "div" [("id", "c")] [.element "svg" [("class", "dark late")] []]]]]

theorem classedPage_keepsClasses :
    Function.Injective IdSource.tally ∧ ∃ tree after,
      (compileDocumentDiscovering classedPage).run .tally .fresh = (.ok tree, after) ∧
        Table.keys tree.classIds = ["page", "dark", "a", "b", "late", "new"] ∧
        tree.elements.map (fun node => node.classes.map String.length) =
          [[3, 4, 3], [4, 6], [], [], [2, 5]] ∧
        KeepsClasses classedPage .tally 0 tree := by
  have returns : ((compileDocumentDiscovering classedPage).run .tally .fresh).1.map
      (fun tree => (Table.keys tree.classIds,
        tree.elements.map fun node => node.classes.map String.length)) =
      .ok (["page", "dark", "a", "b", "late", "new"], [[3, 4, 3], [4, 6], [], [], [2, 5]]) := by
    decide +kernel
  obtain ⟨tree, after, outcome, read⟩ := Build.exists_of_map_eq returns
  obtain ⟨keys, classes⟩ := Prod.mk.inj read
  exact ⟨IdSource.tally_injective, tree, after, outcome, keys, classes,
    compileDocumentDiscovering_keepsClasses IdSource.tally_injective outcome⟩

end Tree

end PageClip
