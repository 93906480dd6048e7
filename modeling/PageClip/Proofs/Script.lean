import PageClip.Proofs.Conversion
import PageClip.Proofs.Tree.Place

/-!
# Scripts and style sheets among the nodes

No root is a script or a style sheet, but one that stands inside a root is compiled as any
other element, and what is written in it comes out as text. `convert_code` says so of every
page; the scripts of the page are collected as code all the same.
-/

namespace PageClip

open Markup

def isCodeTag (tag : String) : Bool := tag = "script" || tag = "style"

def Markup.Element.isCode (element : Element) : Bool := isCodeTag (lowercase element.name)

def Node.text? : Node → Option TextNode
  | .element _ => none
  | .text node => some node

namespace Tree

def texts (tree : Tree) : List TextNode := tree.nodes.filterMap Node.text?

/-- A text that is not blank, and whether it stands inside a script or a style sheet. -/
structure WrittenText where
  insideCode : Bool
  content : Text

mutual

def textsOf (insideCode : Bool) : Item → List WrittenText
  | .text kind content =>
    if isOrdinary kind && !(Text.trim content).isEmpty then [⟨insideCode, Text.trim content⟩] else []
  | .element name _ children => textsIn (insideCode || isCodeTag (lowercase name)) children

/-- The texts among and inside items, in order. -/
def textsIn (insideCode : Bool) : List Item → List WrittenText
  | [] => []
  | item :: rest => textsOf insideCode item ++ textsIn insideCode rest

end

def innerElements (document : Document) : List Element :=
  (contentRoots document).flatMap fun root => elementsOf root.children

def innerTexts (document : Document) : List WrittenText :=
  (contentRoots document).flatMap fun root => textsIn false root.children

/-- What a tree has of the scripts and style sheets of a document: those inside its roots, with what
is written in them. -/
structure HoldsInnerCode (document : Document) (tree : Tree) : Prop where
  roots : ∀ root ∈ contentRoots document, root.isCode = false
  elements : (tree.elements.map ElementNode.tag).filter isCodeTag =
    ((innerElements document).filter Element.isCode).map fun element => lowercase element.name
  texts : tree.texts.map TextNode.value =
    (innerTexts document).map fun text => String.ofList text.content
  codeless : (∀ node ∈ tree.elements, isCodeTag node.tag = false) ↔
    ∀ element ∈ innerElements document, element.isCode = false
  apart : (∀ element ∈ innerElements document, element.isCode = false) →
    ∀ text ∈ innerTexts document, text.insideCode = false

/-! ### Roots -/

theorem not_isCode_of_mem_contentRoots {document : Document} {root : Element}
    (member : root ∈ contentRoots document) : root.isCode = false := by
  rw [contentRoots_eq] at member
  obtain ⟨place, listed, rfl⟩ := List.mem_map.mp member
  obtain ⟨compiled, outside⟩ : zoneInside (place.element :: place.around) = .page ∧
      zoneInside place.around ≠ .page := by
    simpa [Place.isRoot, Place.isCompiled] using (List.mem_filter.mp listed).2
  rw [Bool.eq_false_iff]
  intro code
  have tags : lowercase place.element.name = "script" ∨ lowercase place.element.name = "style" := by
    simpa [Element.isCode, isCodeTag] using code
  rw [zoneInside] at compiled
  generalize lowercase place.element.name = tag at compiled tags
  -- Neither the shell nor a body has code as a root.
  cases zone : zoneInside place.around with
  | page => exact outside zone
  | shell => rw [zone] at compiled; rcases tags with rfl | rfl <;> exact absurd compiled (by decide)
  | body => rw [zone] at compiled; rcases tags with rfl | rfl <;> exact absurd compiled (by decide)
  | dropped => rw [zone] at compiled; cases compiled

/-! ### Elements -/

theorem filter_isCode_roots (document : Document) :
    (elementsOf ((contentRoots document).map Element.toItem)).filter Element.isCode =
      (innerElements document).filter Element.isCode := by
  have each : ∀ root ∈ contentRoots document,
      root.toItem.elements.filter Element.isCode =
        (elementsOf root.children).filter Element.isCode := by
    intro root member
    rw [Element.toItem, Item.elements,
      List.filter_cons_of_neg (by simp [not_isCode_of_mem_contentRoots member])]
  rw [elementsOf_eq_flatMap, List.flatMap_map, innerElements, List.filter_flatMap,
    List.filter_flatMap]
  exact List.flatMap_congr each

theorem map_tag_elements {classIds : ClassIds} {document : Document} {ids : IdSource}
    {ledger after : Ledger} {tree : Tree}
    (h : (compileDocument classIds document).run ids ledger = (.ok tree, after)) :
    tree.elements.map ElementNode.tag =
      (elementsOf ((contentRoots document).map Element.toItem)).map
        fun element => lowercase element.name := by
  rw [← map_element_compiledPlaces, List.map_map]
  have tags : List.Forall₂ (fun node place => node.tag = place.tag) tree.elements
      (compiledPlaces document) := (compileDocument_nodeAt h).imp fun _ _ made => made.tag
  rw [← List.forall₂_eq_eq_eq, List.forall₂_map_left_iff, List.forall₂_map_right_iff]
  exact tags

/-! ### Texts -/

theorem Compiled.texts {classIds : ClassIds} {ids : IdSource} {insideForm : Bool} {first : Nat}
    {items : List Item} {nodes : List Node} {own : List String}
    (h : Compiled classIds ids insideForm first items nodes own) (insideCode : Bool) :
    (nodes.filterMap Node.text?).map TextNode.value =
      (textsIn insideCode items).map fun text => String.ofList text.content := by
  induction h generalizing insideCode with
  | nil => rw [textsIn]; rfl
  | skipped blank _ ih =>
    rw [textsIn, textsOf, blank, ih insideCode]
    rfl
  | text kept _ ih =>
    rw [textsIn, textsOf, if_pos kept, List.map_append, ← ih insideCode]
    rfl
  | @element _ _ name _ _ _ _ _ _ _ _ _ _ _ _ ihBelow ihRest =>
    rw [textsIn, textsOf, List.map_append, ← ihBelow, ← ihRest insideCode, ← List.map_append,
      ← List.filterMap_append]
    rfl

theorem textsIn_eq_flatMap (insideCode : Bool) (items : List Item) :
    textsIn insideCode items = items.flatMap (textsOf insideCode) := by
  induction items with
  | nil => rw [textsIn, List.flatMap_nil]
  | cons item rest ih => rw [textsIn, ih, List.flatMap_cons]

theorem textsIn_roots (document : Document) :
    textsIn false ((contentRoots document).map Element.toItem) = innerTexts document := by
  rw [textsIn_eq_flatMap, List.flatMap_map, innerTexts]
  refine List.flatMap_congr fun root member => ?_
  have tag : isCodeTag (lowercase root.name) = false := not_isCode_of_mem_contentRoots member
  rw [Element.toItem, textsOf, tag, Bool.or_false]

/-- Where no element is code, no text is inside of one. -/
theorem insideCode_of_mem_textsIn {items : List Item}
    (plain : ∀ element ∈ elementsOf items, element.isCode = false) {text : WrittenText}
    (member : text ∈ textsIn false items) : text.insideCode = false := by
  induction items using items_induction with
  | nil => simp [textsIn] at member
  | text kind content rest ih =>
    rw [elementsOf, Item.elements, List.nil_append] at plain
    rw [textsIn, textsOf, List.mem_append] at member
    rcases member with here | later
    · split at here
      · rw [List.mem_singleton.mp here]
      · cases here
    · exact ih plain later
  | element name attributes children rest ihBelow ihRest =>
    rw [elementsOf, Item.elements, List.forall_mem_append, List.forall_mem_cons] at plain
    obtain ⟨⟨here, below⟩, later⟩ := plain
    have tag : isCodeTag (lowercase name) = false := here
    rw [textsIn, textsOf, tag, List.mem_append] at member
    exact member.elim (ihBelow below) (ihRest later)

theorem filter_isCode_elements {classIds : ClassIds} {document : Document} {ids : IdSource}
    {ledger after : Ledger} {tree : Tree}
    (h : (compileDocument classIds document).run ids ledger = (.ok tree, after)) :
    (tree.elements.map ElementNode.tag).filter isCodeTag =
      ((innerElements document).filter Element.isCode).map fun element => lowercase element.name := by
  rw [map_tag_elements h, List.filter_map, ← filter_isCode_roots]
  rfl

theorem compileDocument_holdsInnerCode {classIds : ClassIds} {document : Document} {ids : IdSource}
    {ledger after : Ledger} {tree : Tree}
    (h : (compileDocument classIds document).run ids ledger = (.ok tree, after)) :
    HoldsInnerCode document tree where
  roots := fun root member => not_isCode_of_mem_contentRoots member
  elements := filter_isCode_elements h
  codeless := by
    have none : (tree.elements.map ElementNode.tag).filter isCodeTag = [] ↔
        (innerElements document).filter Element.isCode = [] := by
      rw [filter_isCode_elements h, List.map_eq_nil_iff]
    simpa only [List.filter_eq_nil_iff, List.forall_mem_map, Bool.not_eq_true] using none
  texts := by
    rw [Tree.texts, (compiled_of_compileDocument h).1.texts false, textsIn_roots]
  apart := by
    intro plain text member
    obtain ⟨root, listed, inside⟩ := List.mem_flatMap.mp member
    exact insideCode_of_mem_textsIn
      (fun element within => plain element (List.mem_flatMap.mpr ⟨root, listed, within⟩)) inside

end Tree

/-! ### Conversions -/

open PageClip.Tree

theorem extractScript_ok {parser html found : String} {ids : IdSource} {ledger after : Ledger}
    (h : (extractScript parser html).run ids ledger = (.ok found, after)) :
    ∃ document, parseWith parser html = .ok document ∧ found = documentScript document := by
  unfold extractScript at h
  obtain ⟨document, _, parsed, h⟩ := Build.bind_ok h
  obtain ⟨_, _, -, h⟩ := Build.bind_ok h
  exact ⟨document, (Build.ofExcept_ok parsed).1, (Build.pure_ok h).1⟩

theorem compile_holdsInnerCode {parser html : String} {classIds : ClassIds} {ids : IdSource}
    {ledger after : Ledger} {tree : Tree} {document : Document}
    (parsed : parseWith parser html = .ok document)
    (h : (Tree.compile parser classIds html).run ids ledger = (.ok tree, after)) :
    HoldsInnerCode document tree := by
  unfold Tree.compile at h
  obtain ⟨document', _, read, h⟩ := Build.bind_ok h
  obtain rfl : document' = document := Except.ok.inj ((Build.ofExcept_ok read).1.symm.trans parsed)
  exact compileDocument_holdsInnerCode h

/-- Of the scripts and style sheets of a page, those inside roots come out as nodes with their text,
and no others do. All scripts of the page are in the code of its conversion. -/
theorem convert_code (ids : IdSource) (ledger : Ledger) :
    (∀ classIds document tree after,
      (compileDocument classIds document).run ids ledger = (.ok tree, after) →
        HoldsInnerCode document tree) ∧
    ∀ settings html css js conversion after,
      (convert settings html css js).run ids ledger = (.ok conversion, after) →
        ∃ document, parseWith settings.parser html = .ok document ∧
          HoldsInnerCode document conversion.tree ∧
          conversion.script = joinScripts [documentScript document, js] := by
  refine ⟨fun _ _ _ _ => compileDocument_holdsInnerCode, ?_⟩
  intro settings html css js conversion after h
  obtain ⟨_, _, _, _, found, -, compiled, -, extracted, script, -⟩ := convert_run h
  obtain ⟨document, parsed, rfl⟩ := extractScript_ok extracted
  exact ⟨document, parsed, compile_holdsInnerCode parsed compiled, script⟩

/-- Code in the head and in the body, where it is left out, and inside a root. -/
def codePage : String :=
  "<head><style>b</style></head><body><script>a()</script>" ++
    "<DIV><style>i</style><p>x<SCRIPT> f() </SCRIPT></p></DIV></body>"

theorem convert_code_codePage :
    (∃ conversion after document,
      (convert .standard codePage "" "g()").run .tally .fresh = (.ok conversion, after) ∧
        conversion.tree.elements.map ElementNode.tag = ["div", "style", "p", "script"] ∧
        conversion.tree.texts.map TextNode.value = ["i", "x", "f()"] ∧
        conversion.script = "a()\n\nf()\n\ng()" ∧ parseWith "html.parser" codePage = .ok document ∧
        HoldsInnerCode document conversion.tree) ∧
    ∃ tree after, (compileDocument [] [.element "style" [] [.element "p" [] []]]).run .tally .fresh =
        (.ok tree, after) ∧
      HoldsInnerCode [.element "style" [] [.element "p" [] []]] tree := by
  have converts : ((convert .standard codePage "" "g()").run .tally .fresh).1.map
      (fun conversion => (conversion.tree.elements.map ElementNode.tag,
        conversion.tree.texts.map TextNode.value, conversion.script)) =
      .ok (["div", "style", "p", "script"], ["i", "x", "f()"], "a()\n\nf()\n\ng()") := by
    decide +kernel
  have compiles : ((compileDocument [] [.element "style" [] [.element "p" [] []]]).run
      .tally .fresh).1.map (fun tree => tree.nodes.length) = .ok 1 := by decide +kernel
  obtain ⟨conversion, after, ran, read⟩ := Build.exists_of_map_eq converts
  obtain ⟨tags, rest⟩ := Prod.mk.inj read
  obtain ⟨texts, script⟩ := Prod.mk.inj rest
  obtain ⟨tree, later, compiled, -⟩ := Build.exists_of_map_eq compiles
  obtain ⟨document, parsed, holds, -⟩ := (convert_code .tally .fresh).2 _ _ _ _ _ _ ran
  exact ⟨⟨conversion, after, document, ran, tags, texts, script, parsed, holds⟩,
    tree, later, compiled, (convert_code .tally .fresh).1 _ _ _ _ compiled⟩

/-- A script inside an element is pasted as a node and a text, and once more as code. -/
theorem convert_innerScript :
    ((convert .standard "<div><script>f()</script></div>" "" "").run .tally .fresh).1.map
        (fun conversion => (conversion.tree.elements.map ElementNode.tag,
          conversion.tree.texts.map TextNode.value, conversion.script)) =
      .ok (["div", "script"], ["f()"], "f()") := by
  decide +kernel

end PageClip
