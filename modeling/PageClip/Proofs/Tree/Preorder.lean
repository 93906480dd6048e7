import PageClip.Proofs.Tree.Layout

/-!
# Trees in preorder

The flat list of a compiled page can be read back from its child ids alone: the
visits of the roots, one after another, give the whole list in its order.
-/

namespace PageClip.Tree

/-- Nodes of a forest in preorder. -/
structure InPreorder (nodes : List Node) (rootIds : List String) : Prop where
  distinct : (nodes.map Node.id).Nodup
  /-- A child stands behind its parent. -/
  later : ∀ front node back, nodes = front ++ node :: back →
    ∀ child ∈ node.children, child ∈ back.map Node.id
  /-- In all child lists together a node that is no root stands once. -/
  once : ∀ node ∈ nodes, node.id ∉ rootIds → (nodes.flatMap Node.children).count node.id = 1
  apart : ∀ root ∈ rootIds, root ∉ nodes.flatMap Node.children
  visited : ∃ subtrees, rootIds.mapM (subtreeIds? (.ofNodes nodes)) = some subtrees ∧
    subtrees.flatten = nodes.map Node.id

theorem Visits.exists_subtrees {table : NodeTable} {roots ids : List String}
    (h : Visits table roots ids) :
    ∃ subtrees, roots.mapM (subtreeIds? table) = some subtrees ∧ subtrees.flatten = ids := by
  induction roots generalizing ids with
  | nil =>
    cases h
    exact ⟨[], rfl, rfl⟩
  | cons root rest ih =>
    have first : Visits table ([root] ++ rest) ids := h
    obtain ⟨own, after, visitRoot, visitRest, rfl⟩ := first.of_append
    obtain ⟨subtrees, found, flat⟩ := ih visitRest
    refine ⟨own :: subtrees, ?_, by rw [List.flatten_cons, flat]⟩
    rw [List.mapM_cons, subtreeIds?_eq_some_iff.mpr visitRoot, found]
    rfl

namespace Layout

variable {own : List String} {nodes : List Node}

theorem root_mem (h : Layout own nodes) {root : String} (member : root ∈ own) :
    root ∈ nodes.map Node.id :=
  h.perm.subset (List.mem_append_left _ member)

theorem child_later (h : Layout own nodes) {front back : List Node} {node : Node} {child : String}
    (split : nodes = front ++ node :: back) (below : child ∈ node.children) :
    child ∈ back.map Node.id := by
  induction h generalizing front back with
  | nil => simp at split
  | @cons first own inside nodes layoutInside _ ihInside ihRest =>
    cases front with
    | nil =>
      obtain ⟨rfl, rfl⟩ := List.cons.inj split
      rw [List.map_append]
      exact List.mem_append_left _ (layoutInside.root_mem below)
    | cons other front =>
      obtain ⟨-, split⟩ := List.cons.inj split
      rcases List.append_eq_append_iff.mp split with ⟨more, -, rest⟩ | ⟨more, part, rest⟩
      · exact ihRest rest
      · cases more with
        | nil => exact @ihRest [] back rest.symm
        | cons _ more =>
          obtain ⟨rfl, rfl⟩ := List.cons.inj rest
          show child ∈ (more ++ nodes).map Node.id
          rw [List.map_append]
          exact List.mem_append_left _ (ihInside part)

theorem inPreorder (h : Layout own nodes) (distinct : (nodes.map Node.id).Nodup) :
    InPreorder nodes own where
  distinct := distinct
  later := fun _ _ _ split _ below => h.child_later split below
  once := by
    intro node member notRoot
    have single := List.count_eq_one_of_mem distinct (List.mem_map_of_mem member)
    rw [← h.perm.count_eq, List.count_append, List.count_eq_zero_of_not_mem notRoot] at single
    omega
  apart := by
    intro root member below
    have single := List.nodup_iff_count_le_one.mp (h.perm.nodup_iff.mpr distinct) root
    rw [List.count_append] at single
    have := List.count_pos_iff.mpr member
    have := List.count_pos_iff.mpr below
    omega
  visited := (h.visits fun _ member => NodeTable.find?_of_mem distinct member).exists_subtrees

end Layout

/-- Every document is compiled into the preorder of a forest. A source that hands out an empty id
leads to a fault. -/
theorem compileDocument_inPreorder {classIds : ClassIds} {document : Markup.Document}
    {ids : IdSource} {ledger after : Ledger} {tree : Tree} (distinct : Function.Injective ids)
    (h : (compileDocument classIds document).run ids ledger = (.ok tree, after)) :
    InPreorder tree.nodes tree.rootIds := by
  obtain ⟨compiled, -⟩ := compiled_of_compileDocument h
  apply compiled.layout.inPreorder
  rw [compiled.map_id]
  exact List.Nodup.map distinct List.nodup_range'

def nestedPage : Markup.Document :=
  [.element "html" [] [.text .plain ['\n'], .element "body" []
    [.element "div" [] [.text .plain ['x'], .element "b" [] [.text .plain ['y']], .text .remark []],
      .element "p" [] [.text .plain ['z']]]]]

theorem nestedPage_inPreorder :
    Function.Injective IdSource.tally ∧ ∃ tree after,
      (compileDocument [] nestedPage).run .tally .fresh = (.ok tree, after) ∧
        tree.nodes.length = 6 ∧ InPreorder tree.nodes tree.rootIds := by
  have returns : ((compileDocument [] nestedPage).run .tally .fresh).1.map
      (fun tree => tree.nodes.length) = .ok 6 := by decide +kernel
  rcases outcome : (compileDocument [] nestedPage).run .tally .fresh with ⟨fault | tree, after⟩
  · rw [outcome] at returns
    cases returns
  · rw [outcome] at returns
    exact ⟨IdSource.tally_injective, tree, after, rfl, Except.ok.inj returns,
      compileDocument_inPreorder IdSource.tally_injective outcome⟩

end PageClip.Tree
