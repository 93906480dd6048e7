import PageClip.Node.Basic

/-!
# Nodes by id

Of nodes that share an id the last one counts. `weight` bounds the steps of a
walk over child ids that goes no deeper than a given depth.
-/

namespace PageClip.Tree

/-- Nodes to be found by their ids, the latest first. -/
structure NodeTable where
  latest : List Node

namespace NodeTable

def ofNodes (nodes : List Node) : NodeTable := ⟨nodes.reverse⟩

def find? (table : NodeTable) (id : String) : Option Node :=
  table.latest.find? fun node => node.id = id

/-- The number of nodes, which no path without a repeated node exceeds. -/
def size (table : NodeTable) : Nat := table.latest.length

/-- The number of child ids of all nodes together, which no node exceeds. -/
def width (table : NodeTable) : Nat := (table.latest.flatMap Node.children).length

theorem length_children_le_width {table : NodeTable} {id : String} {node : Node}
    (h : table.find? id = some node) : node.children.length ≤ table.width := by
  have member := List.mem_of_find?_eq_some h
  unfold width
  generalize table.latest = nodes at member
  induction nodes with
  | nil => simp at member
  | cons head rest ih =>
    rw [List.flatMap_cons, List.length_append]
    rcases List.mem_cons.mp member with rfl | later
    · omega
    · have := ih later
      omega

/-- A bound on the steps of a walk from one id that may go down a number of levels. -/
def reach (table : NodeTable) : Nat → Nat
  | 0 => 1
  | levels + 1 => table.width * reach table levels + 1

theorem reach_pos (table : NodeTable) (levels : Nat) : 0 < table.reach levels := by
  cases levels with
  | zero => exact Nat.one_pos
  | succ levels => exact Nat.succ_pos _

/-- A bound on the steps of a walk from the ids on a stack, each with its depth. -/
def weight (table : NodeTable) : List (Nat × String) → Nat
  | [] => 0
  | (depth, _) :: stack => table.reach (table.size - depth) + weight table stack

theorem weight_lt_cons (table : NodeTable) (entry : Nat × String) (stack : List (Nat × String)) :
    table.weight stack < table.weight (entry :: stack) := by
  have := table.reach_pos (table.size - entry.1)
  simp only [weight]
  omega

theorem weight_children (table : NodeTable) (depth : Nat) (children : List String)
    (stack : List (Nat × String)) :
    table.weight (children.map (fun child => (depth, child)) ++ stack) =
      children.length * table.reach (table.size - depth) + table.weight stack := by
  induction children with
  | nil => simp
  | cons child rest ih =>
    simp only [List.map_cons, List.cons_append, weight, ih, List.length_cons, Nat.succ_mul]
    omega

theorem weight_children_lt {table : NodeTable} {depth : Nat} {id : String} {node : Node}
    (stack : List (Nat × String)) (shallow : depth < table.size)
    (h : table.find? id = some node) :
    table.weight (node.children.map (fun child => (depth + 1, child)) ++ stack) <
      table.weight ((depth, id) :: stack) := by
  have few := Nat.mul_le_mul_right (table.reach (table.size - (depth + 1)))
    (length_children_le_width h)
  have level : table.reach (table.size - depth) =
      table.width * table.reach (table.size - (depth + 1)) + 1 := by
    rw [show table.size - depth = table.size - (depth + 1) + 1 by omega, reach]
  rw [weight_children, weight, level]
  omega

end NodeTable

end PageClip.Tree
