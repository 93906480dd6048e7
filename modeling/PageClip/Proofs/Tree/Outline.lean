import PageClip.Proofs.Tree.Tour
import PageClip.Tree.Outline

/-!
# Outlines along tours

An outline is written with one stack for all roots. `outline_tours` says that it
has the lines of the tours of the roots, one tour after another, each line as deep
as its route is long.
-/

namespace PageClip.Tree

/-- What an outline says of a node: its own line and, one level deeper, the number of its styles. -/
def nodeEntries : Node → List (Nat × String)
  | .text node => [(0, s!"[TEXT] \"{node.value}\"")]
  | .element node =>
    (0, s!"<{node.tag}> ({node.kind.name}) [{String.ofList (node.id.toList.take 8)}]") ::
      if node.classes.isEmpty then [] else [(1, s!"classes: {node.classes.length}")]

def Stop.lines (stop : Stop) : List String :=
  (nodeEntries stop.node).map fun (deeper, text) => indentation (stop.route.length + deeper) ++ text

theorem indentation_succ (depth : Nat) : indentation (depth + 1) = indentation depth ++ "  " := by
  apply String.ext
  rw [String.toList_append, indentation, indentation, String.toList_ofList, String.toList_ofList,
    Nat.mul_succ, List.replicate_add]
  rfl

theorem nodeLines_eq (depth : Nat) (node : Node) :
    nodeLines depth node =
      (nodeEntries node).map fun (deeper, text) => indentation (depth + deeper) ++ text := by
  have gap : toString "  classes: " = "  " ++ toString "classes: " := rfl
  cases node with
  | text node =>
    simp only [nodeLines, nodeEntries, List.map_cons, List.map_nil, Nat.add_zero,
      ← String.append_assoc]
    rfl
  | element node =>
    cases plain : node.classes.isEmpty with
    | true =>
      simp only [nodeLines, nodeEntries, plain, if_true, List.map_cons, List.map_nil, Nat.add_zero,
        ← String.append_assoc]
      rfl
    | false =>
      simp only [nodeLines, nodeEntries, plain, Bool.false_eq_true, if_false, List.map_cons,
        List.map_nil, Nat.add_zero, indentation_succ, gap, ← String.append_assoc]
      rfl

theorem outlineFrom?_nil (table : NodeTable) : outlineFrom? table [] = some [] := by
  rw [outlineFrom?]

theorem outlineFrom?_unknown {table : NodeTable} {id : String} (absent : table.find? id = none)
    (depth : Nat) (stack : List (Nat × String)) :
    outlineFrom? table ((depth, id) :: stack) = outlineFrom? table stack := by
  rw [outlineFrom?]
  split
  · rfl
  · next present => simp [absent] at present

theorem outlineFrom?_known {table : NodeTable} {id : String} {node : Node}
    (present : table.find? id = some node) (depth : Nat) (stack : List (Nat × String)) :
    outlineFrom? table ((depth, id) :: stack) =
      if depth < table.size then
        (outlineFrom? table
          (node.children.map (fun child => (depth + 1, child)) ++ stack)).map
            (nodeLines depth node ++ ·)
      else none := by
  rw [outlineFrom?]
  split
  · next absent => simp [absent] at present
  · next found =>
    obtain rfl := Option.some.inj (present.symm.trans found)
    split <;> rfl

/-- The walk writes the lines of tours and goes on with the rest of its stack. -/
theorem outlineFrom?_of_tours {table : NodeTable} {ids : List String} {tours : List (List Stop)}
    (h : Tours table ids tours) (path : List String) (stack : List (Nat × String))
    (above : table.Above path (tours.flatten.map Stop.id)) :
    outlineFrom? table (ids.map (Prod.mk path.length) ++ stack) =
      (outlineFrom? table stack).map
        ((tours.flatten.map fun stop =>
          nodeLines (path.length + stop.route.length) stop.node).flatten ++ ·) := by
  induction h generalizing path stack with
  | nil => simp
  | unknown absent _ ih =>
    rw [List.map_cons, List.cons_append, outlineFrom?_unknown absent]
    exact ih path stack above
  | @known id node rest inner tours present children _ ihInner ihRest =>
    rw [map_id_known present] at above
    have deep := ihInner (id :: path) (rest.map (Prod.mk path.length) ++ stack)
      (above.inside present children.visits)
    have late := ihRest path stack above.behind
    have lines := map_lifted (fun depth node => nodeLines (path.length + depth) node) inner
    simp only [← Nat.add_assoc, Nat.add_right_comm _ _ 1] at lines
    rw [List.length_cons] at deep
    rw [List.map_cons, List.cons_append, outlineFrom?_known present,
      if_pos (above.length_lt_size present), deep, late, List.flatten_cons, List.cons_append,
      List.map_cons, List.map_append, lines]
    cases outlineFrom? table stack <;> simp

/-- The outline of roots from which no circle of child ids can be reached: the stops of their tours,
each as deep below its root as its route is long. -/
theorem outline_tours {nodes : List Node} {rootIds : List String}
    (acyclic : ∀ root ∈ rootIds, (NodeTable.ofNodes nodes).AcyclicFrom root) :
    ∃ tours, List.Forall₂ (fun root tour => IsTour (.ofNodes nodes) root tour ∧
        subtreeIds? (.ofNodes nodes) root = some (tour.map Stop.id)) rootIds tours ∧
      outline nodes rootIds = .ok ("\n".intercalate (tours.flatten.flatMap Stop.lines)) := by
  obtain ⟨ids, visit⟩ := exists_visits acyclic
  obtain ⟨tours, all⟩ := visit.exists_tours
  refine ⟨tours, all.each, ?_⟩
  have lines : tours.flatten.flatMap Stop.lines = (tours.flatten.map fun stop =>
      nodeLines (0 + stop.route.length) stop.node).flatten := by
    simp only [List.flatMap_def, Nat.zero_add, nodeLines_eq]
    rfl
  have walked := outlineFrom?_of_tours all [] [] .nil
  rw [List.append_nil, outlineFrom?_nil, Option.map_some, List.append_nil] at walked
  have found : outlineLines? nodes rootIds = some (tours.flatten.flatMap Stop.lines) := by
    rw [lines]
    exact walked
  rw [outline, found]

/-- A page with a root that is asked for twice and one that is not there. -/
def styledPage : List Node := [
  .element ⟨"a-long-name", .sectionBlock, "section", .custom ⟨"section", []⟩, ["s", "t"],
    ["b", "gone", "b"]⟩,
  .text ⟨"b", "shared"⟩]

theorem styledPage_acyclic :
    ∀ root ∈ ["a-long-name", "gone", "b"], (NodeTable.ofNodes styledPage).AcyclicFrom root := by
  have walks : ∀ root ∈ ["a-long-name", "gone", "b"],
      (subtreeIds? (.ofNodes styledPage) root).isSome := by decide +kernel
  intro root listed
  exact exists_subtreeIds?_iff.mp (Option.isSome_iff_exists.mp (walks root listed))

theorem outline_styledPage :
    (∀ root ∈ ["a-long-name", "gone", "b"],
        (NodeTable.ofNodes styledPage).AcyclicFrom root) ∧
      (∃ tours, List.Forall₂ (fun root tour => IsTour (.ofNodes styledPage) root tour ∧
          subtreeIds? (.ofNodes styledPage) root = some (tour.map Stop.id))
            ["a-long-name", "gone", "b"] tours ∧
        outline styledPage ["a-long-name", "gone", "b"] =
          .ok ("\n".intercalate (tours.flatten.flatMap Stop.lines))) ∧
      outline styledPage ["a-long-name", "gone", "b"] =
        .ok ("<section> (Section) [a-long-n]\n  classes: 2\n  [TEXT] \"shared\"\n" ++
          "  [TEXT] \"shared\"\n[TEXT] \"shared\"") :=
  ⟨styledPage_acyclic, outline_tours styledPage_acyclic, by decide +kernel⟩

end PageClip.Tree
