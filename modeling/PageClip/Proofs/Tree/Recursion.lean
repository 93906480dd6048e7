import PageClip.Proofs.Build
import PageClip.Tree.Compile

/-!
# Compiling by recursion

`compileItems` compiles items by plain recursion over the document, without
frames and without slots that are filled in late. `walk_frame` says what the
walk does with its innermost frame, and `compileDocument_eq` that both compile
every document alike.
-/

namespace PageClip

namespace Tree

open Markup

/-- Whether a text is read as text of the page. -/
def isOrdinary : TextKind → Bool
  | .plain => true
  | .embedded => true
  | .cdata => false
  | .remark => false

mutual

/-- The nodes at and inside an item, parents first, and the id of its own node if it has one. -/
def compileItem (classIds : ClassIds) (insideForm : Bool) : Item → Build (List Node × List String)
  | .element name attributes children => do
    let id ← Build.newId
    let (below, childIds) ← compileItems classIds (insideForm || lowercase name = "form") children
    let node ← elementNode classIds ⟨name, attributes, children⟩ insideForm id childIds
    pure (node :: below, [id])
  | .text kind content =>
    if isOrdinary kind && !(Text.trim content).isEmpty then do
      let id ← Build.newId
      let node ← Build.ofExcept (TextNode.make ⟨id, String.ofList (Text.trim content)⟩)
      pure ([node], [id])
    else pure ([], [])

/-- The nodes at and inside items, in order, and the ids of the items' own nodes. -/
def compileItems (classIds : ClassIds) (insideForm : Bool) :
    List Item → Build (List Node × List String)
  | [] => pure ([], [])
  | item :: rest => do
    let (nodes, own) ← compileItem classIds insideForm item
    let (more, ids) ← compileItems classIds insideForm rest
    pure (nodes ++ more, own ++ ids)

end

/-- Compiles a document by recursion over its roots. -/
def compileByRecursion (classIds : ClassIds) (document : Document) : Build Tree := do
  let (nodes, rootIds) ← compileItems classIds false ((contentRoots document).map Element.toItem)
  Build.note (.compiledTree nodes.length rootIds.length)
  pure ⟨nodes, rootIds, []⟩

/-! ### The walk -/

theorem walk_nil (classIds : ClassIds) (slots : Array (Option Node)) :
    walk classIds [] slots = pure slots := by rw [walk]

theorem nodeText_isEmpty (kind : TextKind) (content : Text) :
    (nodeText kind content).isEmpty = !(isOrdinary kind && !(Text.trim content).isEmpty) := by
  cases kind <;> simp [nodeText, isOrdinary]

theorem nodeText_of_ordinary {kind : TextKind} (h : isOrdinary kind = true) (content : Text) :
    nodeText kind content = Text.trim content := by
  cases kind <;> first | rfl | cases h

/-- The slot that an element takes when it is entered and fills when it is left. -/
theorem fill_slot (slots : Array (Option Node)) (node : Node) (below : List Node) :
    ((slots.push none) ++ (below.map some).toArray).setIfInBounds slots.size (some node) =
      slots ++ ((node :: below).map some).toArray := by
  apply Array.toList_inj.mp
  simp

theorem append_slots (slots : Array (Option Node)) (nodes more : List Node) :
    slots ++ (nodes.map some).toArray ++ (more.map some).toArray =
      slots ++ ((nodes ++ more).map some).toArray := by
  simp

theorem push_slot (slots : Array (Option Node)) (node : Node) :
    slots.push (some node) = slots ++ ([node].map some).toArray := by
  apply Array.toList_inj.mp
  simp

/-- The walk compiles the pending items of its innermost frame behind the nodes so far, fills the
slot of the frame and goes on with the frames outside it. -/
theorem walk_frame (classIds : ClassIds) (frame : Frame) (outer : List Frame)
    (slots : Array (Option Node)) :
    walk classIds (frame :: outer) slots = (do
      let (below, childIds) ← compileItems classIds frame.childrenInsideForm frame.pending
      let node ← elementNode classIds frame.element frame.insideForm frame.id
        (frame.childIds.reverse ++ childIds)
      walk classIds outer
        ((slots ++ (below.map some).toArray).setIfInBounds frame.slot (some node))) := by
  -- On the steps that are left: an inner frame and the frame behind it both have fewer.
  induction steps : stepsOf frame.pending using Nat.strongRecOn generalizing frame outer slots with
  | _ n ih =>
    rw [walk]
    split
    · next done =>
      simp [done, compileItems]
    · next name attributes children rest more =>
      simp only [more, stepsOf, itemSteps] at steps
      rw [more, compileItems, compileItem]
      simp only [bind_assoc, pure_bind]
      refine bind_congr fun id => ?_
      rw [ih (stepsOf children) (by omega) _ _ _ rfl]
      refine bind_congr ?_
      rintro ⟨below, childIds⟩
      refine bind_congr fun node => ?_
      rw [ih (stepsOf rest) (by omega) _ _ _ rfl]
      refine bind_congr ?_
      rintro ⟨late, lateIds⟩
      simp only [Frame.withChild, fill_slot, append_slots, List.reverse_cons, List.append_assoc]
    · next kind content rest more =>
      simp only [more, stepsOf, itemSteps] at steps
      rw [more, compileItems, compileItem, nodeText_isEmpty]
      cases kept : isOrdinary kind && !(Text.trim content).isEmpty with
      | false =>
        simp only [Bool.not_false, if_true, Bool.false_eq_true, if_false, bind_assoc, pure_bind]
        rw [ih (stepsOf rest) (by omega) _ _ _ rfl]
        refine bind_congr ?_
        rintro ⟨late, lateIds⟩
        rfl
      | true =>
        simp only [Bool.not_true, if_true, Bool.false_eq_true, if_false, bind_assoc, pure_bind]
        rw [nodeText_of_ordinary ((Bool.and_eq_true ..).mp kept).1]
        refine bind_congr fun id => bind_congr fun node => ?_
        rw [ih (stepsOf rest) (by omega) _ _ _ rfl]
        refine bind_congr ?_
        rintro ⟨late, lateIds⟩
        simp only [Frame.withChild, push_slot, append_slots, List.reverse_cons, List.append_assoc]

/-! ### Elements and roots -/

theorem compileElement_eq (classIds : ClassIds) (element : Element) (insideForm : Bool) :
    compileElement classIds element insideForm = (do
      let (nodes, _) ← compileItem classIds insideForm element.toItem
      pure nodes) := by
  rw [compileElement, Element.toItem, compileItem]
  simp only [bind_assoc, pure_bind]
  refine bind_congr fun id => ?_
  rw [walk_frame]
  simp only [bind_assoc]
  refine bind_congr fun ⟨below, childIds⟩ => bind_congr fun node => ?_
  rw [walk_nil, pure_bind]
  have filled : (#[none] ++ (below.map some).toArray).setIfInBounds 0 (some node) =
      #[] ++ ((node :: below).map some).toArray := fill_slot #[] node below
  dsimp only
  rw [filled, Array.empty_append, List.filterMap_map]
  exact congrArg pure List.filterMap_some

theorem payload_ok {tag : String} {kind : NodeKind} {attributes : Attributes}
    {element : Option Element} {ids : IdSource} {ledger after : Ledger} {data : Payload}
    (h : (payload tag kind attributes element).run ids ledger = (.ok data, after)) :
    after.drawn = ledger.drawn := by
  unfold payload at h
  split at h
  · obtain ⟨_, mid, told, h⟩ := Build.bind_ok h
    rw [← (Build.pure_ok h).2, Build.note_ok told]
  · obtain ⟨_, _, bagged, h⟩ := Build.bind_ok h
    obtain ⟨-, rfl⟩ := Build.ofExcept_ok bagged
    obtain ⟨_, _, made, h⟩ := Build.bind_ok h
    obtain ⟨-, rfl⟩ := Build.ofExcept_ok made
    rw [(Build.pure_ok h).2]

theorem elementNode_ok {classIds : ClassIds} {element : Element} {insideForm : Bool} {id : String}
    {childIds : List String} {ids : IdSource} {ledger after : Ledger} {node : Node}
    (h : (elementNode classIds element insideForm id childIds).run ids ledger = (.ok node, after)) :
    ∃ (kind : NodeKind) (data : Payload),
      classify (lowercase element.name) (Attributes.ofTexts element.attributes) insideForm =
        .ok kind ∧
      node = .element ⟨id, kind, lowercase element.name, data,
        styleIds classIds (Attributes.ofTexts element.attributes), childIds⟩ ∧
      after.drawn = ledger.drawn := by
  unfold elementNode at h
  obtain ⟨kind, _, read, h⟩ := Build.bind_ok h
  obtain ⟨classified, rfl⟩ := Build.ofExcept_ok read
  obtain ⟨data, _, paid, h⟩ := Build.bind_ok h
  obtain ⟨made, rfl⟩ := Build.ofExcept_ok h
  have drawn := payload_ok paid
  unfold ElementNode.make at made
  split at made
  · cases made
  · exact ⟨kind, data, classified, (Except.ok.inj made).symm, drawn⟩

theorem textNode_ok {text : TextNode} {node : Node} (h : text.make = .ok node) :
    node = .text text := by
  unfold TextNode.make at h
  split at h
  · cases h
  · split at h
    · cases h
    · exact (Except.ok.inj h).symm

/-! ### What compiled items are -/

/-- Nodes that items are compiled into, and the ids of the items' own nodes. The flag says whether a
form is around the items, and `first` is the draw at which they start. -/
inductive Compiled (classIds : ClassIds) (ids : IdSource) :
    Bool → Nat → List Item → List Node → List String → Prop where
  | nil {insideForm : Bool} {first : Nat} : Compiled classIds ids insideForm first [] [] []
  | skipped {insideForm : Bool} {first : Nat} {kind : TextKind} {content : Text}
      {rest : List Item} {nodes : List Node} {own : List String} :
      (isOrdinary kind && !(Text.trim content).isEmpty) = false →
      Compiled classIds ids insideForm first rest nodes own →
      Compiled classIds ids insideForm first (.text kind content :: rest) nodes own
  | text {insideForm : Bool} {first : Nat} {kind : TextKind} {content : Text}
      {rest : List Item} {nodes : List Node} {own : List String} :
      (isOrdinary kind && !(Text.trim content).isEmpty) = true →
      Compiled classIds ids insideForm (first + 1) rest nodes own →
      Compiled classIds ids insideForm first (.text kind content :: rest)
        (.text ⟨ids first, String.ofList (Text.trim content)⟩ :: nodes) (ids first :: own)
  | element {insideForm : Bool} {first : Nat} {name : String}
      {attributes : List (String × String)} {children rest : List Item} {kind : NodeKind}
      {data : Payload} {below nodes : List Node} {childIds own : List String} :
      Compiled classIds ids (insideForm || lowercase name = "form") (first + 1) children below
        childIds →
      classify (lowercase name) (Attributes.ofTexts attributes) insideForm = .ok kind →
      Compiled classIds ids insideForm (first + 1 + below.length) rest nodes own →
      Compiled classIds ids insideForm first (.element name attributes children :: rest)
        (.element ⟨ids first, kind, lowercase name, data,
          styleIds classIds (Attributes.ofTexts attributes), childIds⟩ :: (below ++ nodes))
        (ids first :: own)

theorem compiled_of_run {classIds : ClassIds} {insideForm : Bool} {items : List Item}
    {ids : IdSource} {ledger after : Ledger} {nodes : List Node} {own : List String}
    (h : (compileItems classIds insideForm items).run ids ledger = (.ok (nodes, own), after)) :
    Compiled classIds ids insideForm ledger.drawn items nodes own ∧
      after.drawn = ledger.drawn + nodes.length := by
  match items with
  | [] =>
    rw [compileItems] at h
    obtain ⟨same, rfl⟩ := Build.pure_ok h
    obtain ⟨rfl, rfl⟩ := Prod.mk.inj same
    exact ⟨.nil, rfl⟩
  | .text kind content :: rest =>
    rw [compileItems, compileItem] at h
    cases kept : isOrdinary kind && !(Text.trim content).isEmpty with
    | false =>
      simp only [kept, Bool.false_eq_true, if_false, pure_bind] at h
      obtain ⟨⟨more, late⟩, mid, ran, h⟩ := Build.bind_ok h
      obtain ⟨same, rfl⟩ := Build.pure_ok h
      obtain ⟨rfl, rfl⟩ := Prod.mk.inj same
      obtain ⟨compiled, drawn⟩ := compiled_of_run ran
      exact ⟨.skipped kept compiled, drawn⟩
    | true =>
      simp only [kept, if_true, bind_assoc, pure_bind] at h
      obtain ⟨id, _, drew, h⟩ := Build.bind_ok h
      obtain ⟨rfl, next⟩ := Build.newId_ok drew
      obtain ⟨node, _, made, h⟩ := Build.bind_ok h
      obtain ⟨valid, rfl⟩ := Build.ofExcept_ok made
      obtain ⟨⟨more, late⟩, _, ran, h⟩ := Build.bind_ok h
      obtain ⟨same, rfl⟩ := Build.pure_ok h
      obtain ⟨rfl, rfl⟩ := Prod.mk.inj same
      obtain ⟨compiled, drawn⟩ := compiled_of_run ran
      rw [next] at compiled drawn
      obtain rfl := textNode_ok valid
      exact ⟨.text kept compiled, by simp [drawn]; omega⟩
  | .element name attributes children :: rest =>
    rw [compileItems, compileItem] at h
    simp only [bind_assoc, pure_bind] at h
    obtain ⟨id, _, drew, h⟩ := Build.bind_ok h
    obtain ⟨rfl, next⟩ := Build.newId_ok drew
    obtain ⟨⟨below, childIds⟩, _, inner, h⟩ := Build.bind_ok h
    obtain ⟨node, _, made, h⟩ := Build.bind_ok h
    obtain ⟨⟨more, late⟩, _, ran, h⟩ := Build.bind_ok h
    obtain ⟨same, rfl⟩ := Build.pure_ok h
    obtain ⟨rfl, rfl⟩ := Prod.mk.inj same
    obtain ⟨deep, drawnDeep⟩ := compiled_of_run inner
    obtain ⟨kind, data, classified, rfl, still⟩ := elementNode_ok made
    obtain ⟨compiled, drawn⟩ := compiled_of_run ran
    rw [next] at deep drawnDeep
    rw [still, drawnDeep] at compiled drawn
    exact ⟨.element deep classified compiled, by simp [drawn]; omega⟩
termination_by sizeOf items

/-! ### Documents -/

theorem own_of_compileItem {classIds : ClassIds} {insideForm : Bool} {element : Element}
    {ids : IdSource} {ledger after : Ledger} {nodes : List Node} {own : List String}
    (h : (compileItem classIds insideForm element.toItem).run ids ledger =
      (.ok (nodes, own), after)) :
    own = (nodes.head?.map Node.id).toList := by
  rw [Element.toItem, compileItem] at h
  obtain ⟨id, _, -, h⟩ := Build.bind_ok h
  obtain ⟨⟨below, childIds⟩, _, -, h⟩ := Build.bind_ok h
  obtain ⟨node, _, made, h⟩ := Build.bind_ok h
  obtain ⟨same, -⟩ := Build.pure_ok h
  obtain ⟨rfl, rfl⟩ := Prod.mk.inj same
  obtain ⟨kind, data, -, rfl, -⟩ := elementNode_ok made
  rfl

theorem compileRoots_eq (classIds : ClassIds) (roots : List Element) :
    compileRoots classIds roots = compileItems classIds false (roots.map Element.toItem) := by
  induction roots with
  | nil => rw [compileRoots, List.map_nil, compileItems]
  | cons root rest ih =>
    rw [compileRoots, compileElement_eq, List.map_cons, compileItems, ih]
    simp only [bind_assoc, pure_bind]
    apply Build.bind_congr_ok
    rintro ids ledger ⟨nodes, own⟩ after ran
    rw [own_of_compileItem ran]

theorem compileDocument_eq (classIds : ClassIds) (document : Document) :
    compileDocument classIds document = compileByRecursion classIds document := by
  rw [compileDocument, compileByRecursion, compileRoots_eq]

theorem Compiled.map_id {classIds : ClassIds} {ids : IdSource} {insideForm : Bool} {first : Nat}
    {items : List Item} {nodes : List Node} {own : List String}
    (h : Compiled classIds ids insideForm first items nodes own) :
    nodes.map Node.id = (List.range' first nodes.length).map ids := by
  induction h with
  | nil => rfl
  | skipped _ _ ih => exact ih
  | text _ _ ih =>
    rw [List.map_cons, List.length_cons, List.range'_succ, List.map_cons, ← ih]
    rfl
  | element _ _ _ ihBelow ihRest =>
    rw [List.map_cons, List.map_append, List.length_cons, List.length_append, List.range'_succ,
      List.map_cons, ← List.range'_append_1, List.map_append, ← ihBelow, ← ihRest]
    rfl

theorem compiled_of_compileDocument {classIds : ClassIds} {document : Document} {ids : IdSource}
    {ledger after : Ledger} {tree : Tree}
    (h : (compileDocument classIds document).run ids ledger = (.ok tree, after)) :
    Compiled classIds ids false ledger.drawn ((contentRoots document).map Element.toItem)
      tree.nodes tree.rootIds ∧ after.drawn = ledger.drawn + tree.nodes.length := by
  rw [compileDocument_eq, compileByRecursion] at h
  obtain ⟨⟨nodes, rootIds⟩, _, ran, h⟩ := Build.bind_ok h
  obtain ⟨_, _, told, h⟩ := Build.bind_ok h
  obtain ⟨rfl, rfl⟩ := Build.pure_ok h
  obtain ⟨compiled, drawn⟩ := compiled_of_run ran
  exact ⟨compiled, (Build.note_ok told).trans drawn⟩

/-- Walking a document with frames does all that compiling it by recursion does, faults and events
included. The nodes are the records of the items that are kept, each with the ids of its kept
children, and carry the ids of the source in the order in which it hands them out. -/
theorem compileDocument_recursion (classIds : ClassIds) (document : Document) :
    compileDocument classIds document = compileByRecursion classIds document ∧
      ∀ ids ledger tree after,
        (compileDocument classIds document).run ids ledger = (.ok tree, after) →
          (Compiled classIds ids false ledger.drawn ((contentRoots document).map Element.toItem)
              tree.nodes tree.rootIds ∧ after.drawn = ledger.drawn + tree.nodes.length) ∧
            ∀ place node, tree.nodes[place]? = some node → node.id = ids (ledger.drawn + place) := by
  refine ⟨compileDocument_eq classIds document, ?_⟩
  intro ids ledger tree after h
  have compiled := compiled_of_compileDocument h
  refine ⟨compiled, fun place node found => ?_⟩
  have listed := congrArg (·[place]?) compiled.1.map_id
  obtain ⟨bound, -⟩ := List.getElem?_eq_some_iff.mp found
  simp only [List.getElem?_map, found, Option.map_some, List.getElem?_range' bound] at listed
  simpa using listed

end Tree

end PageClip
