import PageClip.Tree.NodeTable

/-!
# Subtrees

The ids that can be reached from a root, depth first. A node that is a child in
several places is met in each of them. A path that is longer than there are
nodes has gone round in a circle; then there is no list of ids.
-/

namespace PageClip.Tree

/-- The ids of a walk over a stack of ids, each with its depth below its root. -/
def visit? (table : NodeTable) : List (Nat × String) → Option (List String)
  | [] => some []
  | (depth, id) :: stack =>
    match _ : table.find? id with
    | none => visit? table stack
    | some node =>
      if depth < table.size then
        (visit? table (node.children.map (fun child => (depth + 1, child)) ++ stack)).map (id :: ·)
      else none
termination_by stack => table.weight stack
decreasing_by
  · exact NodeTable.weight_lt_cons ..
  · exact NodeTable.weight_children_lt stack ‹_› ‹_›

/-- A root and every id that can be reached from it, depth first. -/
def subtreeIds? (table : NodeTable) (root : String) : Option (List String) :=
  visit? table [(0, root)]

end PageClip.Tree
