import PageClip.Tree.NodeTable

/-!
# Outlines

A compiled page as indented lines: one for each node below its roots, two blanks
a level, and one more for an element with styles.
-/

namespace PageClip.Tree

def indentation (depth : Nat) : String := String.ofList (List.replicate (2 * depth) ' ')

def nodeLines (depth : Nat) : Node → List String
  | .text node => [s!"{indentation depth}[TEXT] \"{node.value}\""]
  | .element node =>
    let start := String.ofList (node.id.toList.take 8)
    s!"{indentation depth}<{node.tag}> ({node.kind.name}) [{start}]" ::
      if node.classes.isEmpty then []
      else [s!"{indentation depth}  classes: {node.classes.length}"]

/-- The lines of a walk over a stack of ids, each with its depth below its root. -/
def outlineFrom? (table : NodeTable) : List (Nat × String) → Option (List String)
  | [] => some []
  | (depth, id) :: stack =>
    match _ : table.find? id with
    | none => outlineFrom? table stack
    | some node =>
      if depth < table.size then
        (outlineFrom? table
          (node.children.map (fun child => (depth + 1, child)) ++ stack)).map
            (nodeLines depth node ++ ·)
      else none
termination_by stack => table.weight stack
decreasing_by
  · exact NodeTable.weight_lt_cons ..
  · exact NodeTable.weight_children_lt stack ‹_› ‹_›

/-- The lines of the nodes below roots; there are none to give where child ids lead in a circle. -/
def outlineLines? (nodes : List Node) (rootIds : List String) : Option (List String) :=
  outlineFrom? (.ofNodes nodes) (rootIds.map fun root => (0, root))

def outline (nodes : List Node) (rootIds : List String) : Except Fault String :=
  match outlineLines? nodes rootIds with
  | some lines => .ok ("\n".intercalate lines)
  | none => .error .cyclicNodes

end PageClip.Tree
