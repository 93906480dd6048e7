import PageClip.Proofs.Tree.Recursion
import PageClip.Proofs.Tree.Visit

/-!
# Parents first

A node list is laid out when it is the preorder of the trees that its child ids
describe. Compiled documents are, and `Layout.visits` reads the visit of their
roots off the list.
-/

namespace PageClip.Tree

/-- Nodes in preorder, and the ids of the roots among them. -/
inductive Layout : List String → List Node → Prop where
  | nil : Layout [] []
  | cons (node : Node) {own : List String} {below nodes : List Node} :
      Layout node.children below → Layout own nodes →
        Layout (node.id :: own) (node :: (below ++ nodes))

theorem Compiled.layout {classIds : ClassIds} {ids : IdSource} {insideForm : Bool} {first : Nat}
    {items : List Markup.Item} {nodes : List Node} {own : List String}
    (h : Compiled classIds ids insideForm first items nodes own) : Layout own nodes := by
  induction h with
  | nil => exact .nil
  | skipped _ _ ih => exact ih
  | text _ _ ih => exact .cons (.text ⟨ids _, _⟩) .nil ih
  | element _ _ _ ihBelow ihRest => exact .cons (.element ⟨ids _, _, _, _, _, _⟩) ihBelow ihRest

namespace Layout

variable {own : List String} {nodes : List Node}

/-- Each node is a root or a child, and that once. -/
theorem perm (h : Layout own nodes) :
    (own ++ nodes.flatMap Node.children).Perm (nodes.map Node.id) := by
  induction h with
  | nil => exact .refl _
  | @cons node own below nodes _ _ ihBelow ihRest =>
    rw [List.cons_append, List.map_cons, List.map_append, List.flatMap_cons, List.flatMap_append]
    refine List.Perm.cons _ ?_
    have parts : (own ++ (node.children ++ (below.flatMap Node.children ++
        nodes.flatMap Node.children))).Perm
        ((node.children ++ below.flatMap Node.children) ++
          (own ++ nodes.flatMap Node.children)) := by
      rw [← List.append_assoc node.children]
      exact List.perm_append_comm_assoc ..
    exact parts.trans (ihBelow.append ihRest)

theorem visits {table : NodeTable} (h : Layout own nodes)
    (present : ∀ node ∈ nodes, table.find? node.id = some node) :
    Visits table own (nodes.map Node.id) := by
  induction h with
  | nil => exact .nil
  | @cons node own below nodes _ _ ihBelow ihRest =>
    obtain ⟨here, others⟩ := List.forall_mem_cons.mp present
    rw [List.map_cons, List.map_append]
    exact .known here (ihBelow fun other member => others other (List.mem_append_left _ member))
      (ihRest fun other member => others other (List.mem_append_right _ member))

theorem child_mem (h : Layout own nodes) {node : Node} {child : String} (member : node ∈ nodes)
    (below : child ∈ node.children) : child ∈ nodes.map Node.id :=
  h.perm.subset (List.mem_append_right _ (List.mem_flatMap.mpr ⟨node, member, below⟩))

end Layout

end PageClip.Tree
