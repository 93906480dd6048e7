import Mathlib.Data.List.Forall2
import PageClip.Markup.Query
import PageClip.Proofs.Tree.Recursion

/-!
# Places

Where the elements of a document stand, and which of them are compiled. The
ancestors of an element decide that: they say in which zone of the document it
is. `Compiled.nodeAt` matches the nodes of a document with the places in its
page zone.
-/

namespace PageClip

def Node.element? : Node → Option ElementNode
  | .element node => some node
  | .text _ => none

namespace Tree

open Markup

def elements (tree : Tree) : List ElementNode := tree.nodes.filterMap Node.element?

/-- An element of a document and the elements around it, innermost first. -/
structure Place where
  around : List Element
  element : Element

mutual

def placesOf (around : List Element) : Item → List Place
  | .text .. => []
  | .element name attributes children =>
    ⟨around, ⟨name, attributes, children⟩⟩ ::
      placesIn (⟨name, attributes, children⟩ :: around) children

/-- The places among and inside items, in the order in which the elements start. -/
def placesIn (around : List Element) : List Item → List Place
  | [] => []
  | item :: rest => placesOf around item ++ placesIn around rest

end

inductive Zone where
  /-- What is only searched for roots. -/
  | shell
  /-- Directly inside a body. -/
  | body
  | page
  /-- Inside a script or a style sheet of a body. -/
  | dropped
  deriving DecidableEq

/-- The zone inside an element that itself stands in `zone`. -/
def Zone.enter (zone : Zone) (tag : String) : Zone :=
  match zone with
  | .shell => if tag = "body" then .body else if shellTags.contains tag then .shell else .page
  | .body => if tag ≠ "script" && tag ≠ "style" then .page else .dropped
  | .page => .page
  | .dropped => .dropped

/-- The zone inside the first of some elements that stand inside each other. -/
def zoneInside : List Element → Zone
  | [] => .shell
  | element :: around => (zoneInside around).enter (lowercase element.name)

def hasForm (elements : List Element) : Bool :=
  elements.any fun element => lowercase element.name = "form"

namespace Place

def tag (place : Place) : String := lowercase place.element.name

def insideForm (place : Place) : Bool := hasForm place.around

def isCompiled (place : Place) : Bool := zoneInside (place.element :: place.around) = .page

def isRoot (place : Place) : Bool := place.isCompiled && zoneInside place.around ≠ .page

def subtree (place : Place) : List Place := placesOf place.around place.element.toItem

end Place

def compiledPlaces (document : Document) : List Place :=
  (placesIn [] document).filter Place.isCompiled

/-! ### Items -/

@[elab_as_elim]
theorem items_induction {motive : List Item → Prop} (nil : motive [])
    (text : ∀ kind content rest, motive rest → motive (.text kind content :: rest))
    (element : ∀ name attributes children rest, motive children → motive rest →
      motive (.element name attributes children :: rest)) (items : List Item) : motive items := by
  match items with
  | [] => exact nil
  | .text kind content :: rest => exact text kind content rest (items_induction nil text element rest)
  | .element name attributes children :: rest =>
    exact element name attributes children rest (items_induction nil text element children)
      (items_induction nil text element rest)
termination_by sizeOf items

variable {around : List Element} {items : List Item}

@[simp] theorem placesIn_nil : placesIn around [] = [] := by rw [placesIn]

@[simp] theorem placesIn_text (kind : TextKind) (content : Text) (rest : List Item) :
    placesIn around (.text kind content :: rest) = placesIn around rest := by
  rw [placesIn, placesOf, List.nil_append]

@[simp] theorem placesIn_element (name : String) (attributes : List (String × String))
    (children rest : List Item) :
    placesIn around (.element name attributes children :: rest) =
      ⟨around, ⟨name, attributes, children⟩⟩ ::
        (placesIn (⟨name, attributes, children⟩ :: around) children ++ placesIn around rest) := by
  rw [placesIn, placesOf, List.cons_append]

theorem placesIn_eq_flatMap (around : List Element) (items : List Item) :
    placesIn around items = items.flatMap (placesOf around) := by
  induction items with
  | nil => rw [placesIn, List.flatMap_nil]
  | cons item rest ih => rw [placesIn, ih, List.flatMap_cons]

theorem map_element_placesIn (around : List Element) (items : List Item) :
    (placesIn around items).map Place.element = elementsOf items := by
  induction items using items_induction generalizing around with
  | nil => rw [placesIn, elementsOf, List.map_nil]
  | text kind content rest ih =>
    rw [placesIn_text, ih, elementsOf, Item.elements, List.nil_append]
  | element name attributes children rest ihChildren ihRest =>
    rw [placesIn_element, List.map_cons, List.map_append, ihChildren, ihRest, elementsOf,
      Item.elements, List.cons_append]

theorem elementsOf_eq_flatMap (items : List Item) : elementsOf items = items.flatMap Item.elements := by
  induction items with
  | nil => rw [elementsOf, List.flatMap_nil]
  | cons item rest ih => rw [elementsOf, ih, List.flatMap_cons]

theorem Place.map_element_subtree (place : Place) :
    place.subtree.map Place.element = place.element.toItem.elements := by
  have single := map_element_placesIn place.around [place.element.toItem]
  rwa [placesIn, placesIn, elementsOf, elementsOf, List.append_nil, List.append_nil] at single

/-! ### Zones -/

/-- A zone that is not left on the way down has all that is inside. -/
theorem zoneInside_of_mem {place : Place}
    (closed : ∀ tag, (zoneInside around).enter tag = zoneInside around)
    (member : place ∈ placesIn around items) : zoneInside place.around = zoneInside around := by
  induction items using items_induction generalizing around with
  | nil => simp at member
  | text kind content rest ih => exact ih closed (by simpa using member)
  | element name attributes children rest ihChildren ihRest =>
    rw [placesIn_element, List.mem_cons, List.mem_append] at member
    rcases member with rfl | below | later
    · rfl
    · have same : zoneInside (⟨name, attributes, children⟩ :: around) = zoneInside around := closed _
      rw [← same]
      apply ihChildren _ below
      rw [same]
      exact closed
    · exact ihRest closed later

theorem Place.isCompiled_of_page {place : Place} (inside : zoneInside place.around = .page) :
    place.isCompiled = true := by
  simp [isCompiled, zoneInside, inside, Zone.enter]

theorem filter_isCompiled_of_page (inside : zoneInside around = .page) (items : List Item) :
    (placesIn around items).filter Place.isCompiled = placesIn around items := by
  rw [List.filter_eq_self]
  intro place member
  apply Place.isCompiled_of_page
  rw [zoneInside_of_mem (by simp [inside, Zone.enter]) member, inside]

theorem filter_isRoot_of_closed (inside : zoneInside around = .page ∨ zoneInside around = .dropped)
    (items : List Item) : (placesIn around items).filter Place.isRoot = [] := by
  rw [List.filter_eq_nil_iff]
  intro place member
  have same := zoneInside_of_mem (by rcases inside with h | h <;> simp [h, Zone.enter]) member
  rcases inside with h | h <;> simp [Place.isRoot, Place.isCompiled, zoneInside, same, h, Zone.enter]

/-- What is compiled are the roots and what is inside them. -/
theorem filter_isCompiled (outside : zoneInside around ≠ .page) :
    (placesIn around items).filter Place.isCompiled =
      ((placesIn around items).filter Place.isRoot).flatMap Place.subtree := by
  induction items using items_induction generalizing around with
  | nil => simp
  | text kind content rest ih => simpa using ih outside
  | element name attributes children rest ihChildren ihRest =>
    rw [placesIn_element, List.filter_cons, List.filter_cons, List.filter_append, List.filter_append,
      ihRest outside]
    by_cases inside : zoneInside (⟨name, attributes, children⟩ :: around) = .page
    · -- The element is a root: all inside is compiled, and no other root is there.
      simp [Place.isRoot, Place.isCompiled, inside, outside, filter_isCompiled_of_page inside,
        filter_isRoot_of_closed (.inl inside), Place.subtree, Element.toItem, placesOf]
    · simp [Place.isRoot, Place.isCompiled, inside, ihChildren inside]

theorem roots_of_body (inside : zoneInside around = .body) :
    ((placesIn around items).filter Place.isRoot).map Place.element = bodyElements items := by
  induction items using items_induction with
  | nil => simp [bodyElements, childElements]
  | text kind content rest ih => simpa [bodyElements, childElements] using ih
  | element name attributes children rest _ ih =>
    have below : zoneInside (⟨name, attributes, children⟩ :: around) =
        if lowercase name ≠ "script" && lowercase name ≠ "style" then .page else .dropped := by
      rw [zoneInside, inside, Zone.enter]
    rw [bodyElements, childElements, List.filter_cons, ← bodyElements, ← ih, placesIn_element,
      List.filter_cons, List.filter_append, filter_isRoot_of_closed (by rw [below]; split <;> simp),
      List.nil_append, Place.isRoot, Place.isCompiled, below, inside]
    split <;> simp

theorem roots_of_shell (inside : zoneInside around = .shell) :
    ((placesIn around items).filter Place.isRoot).map Place.element = rootsOf items := by
  induction items using items_induction generalizing around with
  | nil => simp [rootsOf]
  | text kind content rest ih => simpa [rootsOf, rootsOfItem] using ih inside
  | element name attributes children rest ihChildren ihRest =>
    have below : zoneInside (⟨name, attributes, children⟩ :: around) =
        if lowercase name = "body" then .body
        else if shellTags.contains (lowercase name) then .shell else .page := by
      rw [zoneInside, inside, Zone.enter]
    rw [rootsOf, rootsOfItem, placesIn_element, List.filter_cons, List.filter_append, Place.isRoot,
      Place.isCompiled, ← ihRest inside]
    by_cases body : lowercase name = "body"
    · rw [if_pos body] at below
      simp [below, body, roots_of_body below]
    by_cases shell : lowercase name ∈ shellTags
    · rw [if_neg body, if_pos (List.contains_iff_mem.mpr shell)] at below
      simp [below, body, shell, ihChildren below]
    · rw [if_neg body, if_neg (mt List.contains_iff_mem.mp shell)] at below
      simp [below, inside, body, shell, filter_isRoot_of_closed (.inl below)]

theorem contentRoots_eq (document : Document) :
    contentRoots document = ((placesIn [] document).filter Place.isRoot).map Place.element :=
  (roots_of_shell rfl).symm

theorem compiledPlaces_eq (document : Document) :
    compiledPlaces document =
      ((placesIn [] document).filter Place.isRoot).flatMap Place.subtree :=
  filter_isCompiled (by simp [zoneInside])

theorem map_element_compiledPlaces (document : Document) :
    (compiledPlaces document).map Place.element =
      elementsOf ((contentRoots document).map Element.toItem) := by
  rw [compiledPlaces_eq, contentRoots_eq, elementsOf_eq_flatMap, List.map_flatMap, List.map_map,
    List.flatMap_map]
  simp only [Place.map_element_subtree, Function.comp_apply]

theorem Zone.of_enter {zone : Zone} {tag : String}
    (inside : zone.enter tag = .shell ∨ zone.enter tag = .body) : zone = .shell ∧ tag ∈ shellTags := by
  cases zone with
  | shell =>
    refine ⟨rfl, ?_⟩
    by_contra absent
    have noBody : tag ≠ "body" := by
      rintro rfl
      exact absent (by decide)
    simp [enter, noBody, absent] at inside
  | body =>
    simp only [enter] at inside
    split at inside <;> simp at inside
  | page => simp [enter] at inside
  | dropped => simp [enter] at inside

/-- Around what may be a root stands the shell only. -/
theorem mem_shellTags_of_zoneInside
    (inside : zoneInside around = .shell ∨ zoneInside around = .body) :
    ∀ element ∈ around, lowercase element.name ∈ shellTags := by
  induction around with
  | nil => simp
  | cons element around ih =>
    obtain ⟨outer, shell⟩ := Zone.of_enter inside
    rw [List.forall_mem_cons]
    exact ⟨shell, ih (.inl outer)⟩

theorem Place.insideForm_of_isRoot {place : Place} (root : place.isRoot) :
    place.insideForm = false := by
  obtain ⟨compiled, outside⟩ : zoneInside (place.element :: place.around) = .page ∧
      zoneInside place.around ≠ .page := by
    simpa [isRoot, isCompiled] using root
  have shell : zoneInside place.around = .shell ∨ zoneInside place.around = .body := by
    rw [zoneInside] at compiled
    cases zone : zoneInside place.around with
    | shell => exact .inl rfl
    | body => exact .inr rfl
    | page => exact absurd zone outside
    | dropped => simp [zone, Zone.enter] at compiled
  rw [insideForm, hasForm, List.any_eq_false]
  intro element member form
  have listed := mem_shellTags_of_zoneInside shell element member
  rw [of_decide_eq_true form] at listed
  exact absurd listed (by decide)

/-! ### Nodes -/

/-- A node that an element at a place is compiled into. -/
structure NodeAt (classIds : ClassIds) (node : ElementNode) (place : Place) : Prop where
  tag : node.tag = place.tag
  kind : classify place.tag (.ofTexts place.element.attributes) place.insideForm = .ok node.kind
  classes : node.classes = styleIds classIds (.ofTexts place.element.attributes)

theorem Compiled.nodeAt {classIds : ClassIds} {ids : IdSource} {insideForm : Bool} {first : Nat}
    {items : List Item} {nodes : List Node} {own : List String}
    (h : Compiled classIds ids insideForm first items nodes own)
    {spots : List (List Element × Item)} (listed : spots.map Prod.snd = items)
    (context : ∀ spot ∈ spots, hasForm spot.1 = insideForm) :
    List.Forall₂ (NodeAt classIds) (nodes.filterMap Node.element?)
      (spots.flatMap fun spot => placesOf spot.1 spot.2) := by
  -- The roots of a document do not stand at one place, so each item comes with what is around it.
  induction h generalizing spots with
  | nil =>
    rw [List.map_eq_nil_iff.mp listed]
    exact .nil
  | skipped _ _ ih =>
    obtain ⟨⟨around, _⟩, spots, rfl, rfl, rfl⟩ := List.map_eq_cons_iff.mp listed
    rw [List.flatMap_cons, placesOf, List.nil_append]
    exact ih rfl fun spot member => context spot (List.mem_cons_of_mem _ member)
  | text _ _ ih =>
    obtain ⟨⟨around, _⟩, spots, rfl, rfl, rfl⟩ := List.map_eq_cons_iff.mp listed
    rw [List.flatMap_cons, placesOf, List.nil_append]
    exact ih rfl fun spot member => context spot (List.mem_cons_of_mem _ member)
  | @element insideForm _ name attributes children _ _ _ _ _ _ _ _ classified _ ihBelow ihRest =>
    obtain ⟨⟨around, _⟩, spots, rfl, rfl, rfl⟩ := List.map_eq_cons_iff.mp listed
    obtain ⟨here, others⟩ := List.forall_mem_cons.mp context
    rw [List.flatMap_cons, placesOf, List.cons_append, List.filterMap_cons, Node.element?,
      List.filterMap_append]
    refine .cons ⟨rfl, ?_, rfl⟩ (List.rel_append ?_ (ihRest rfl others))
    · rw [Place.insideForm, here]
      exact classified
    · have inner := @ihBelow (children.map fun item => (⟨name, attributes, children⟩ :: around, item))
        (by simp [Function.comp_def]) (by simp [← here, hasForm, Bool.or_comm])
      rwa [List.flatMap_map, ← placesIn_eq_flatMap] at inner

theorem compileDocument_nodeAt {classIds : ClassIds} {document : Document} {ids : IdSource}
    {ledger after : Ledger} {tree : Tree}
    (h : (compileDocument classIds document).run ids ledger = (.ok tree, after)) :
    List.Forall₂ (NodeAt classIds) tree.elements (compiledPlaces document) := by
  obtain ⟨compiled, -⟩ := compiled_of_compileDocument h
  rw [contentRoots_eq] at compiled
  have nodes : List.Forall₂ (NodeAt classIds) (tree.nodes.filterMap Node.element?)
      ((((placesIn [] document).filter Place.isRoot).map fun place =>
        (place.around, place.element.toItem)).flatMap fun spot => placesOf spot.1 spot.2) := by
    apply compiled.nodeAt
    · simp [Function.comp_def]
    · intro spot member
      obtain ⟨place, listed, rfl⟩ := List.mem_map.mp member
      exact Place.insideForm_of_isRoot (List.mem_filter.mp listed).2
  rw [compiledPlaces_eq]
  rwa [List.flatMap_map] at nodes

end Tree

end PageClip
