import PageClip.Proofs.Chunk.Partition
import PageClip.Proofs.Tree.Layout

/-!
# Chunks in order

The chunks of nodes that are laid out parents first hold the nodes one after
another.
-/

namespace PageClip

open RootGroup PageClip.Tree

/-- Nodes with ids of their own that are laid out parents first are a forest. -/
theorem Tree.Layout.forest {nodes : List Node} {rootIds : List String} (layout : Layout rootIds nodes)
    (distinct : (nodes.map Node.id).Nodup) : Forest nodes rootIds where
  distinct := distinct
  acyclic := by
    intro id circle
    have visit : Visits (.ofNodes nodes) rootIds (nodes.map Node.id) :=
      layout.visits fun node member => NodeTable.find?_of_mem distinct member
    obtain ⟨child, first, -⟩ := Relation.TransGen.head'_iff.mp circle
    obtain ⟨node, member, rfl, -⟩ := NodeTable.mem_children_of_child first
    exact visit.acyclic (List.mem_map_of_mem member) circle
  single := by
    intro node member
    rw [layout.perm.count_eq]
    exact List.nodup_iff_count_le_one.mp distinct node.id

/-- Elements whose keys make up segments are sorted out by the segments into their own order. -/
theorem flatMap_filter_segments {α β : Type} [DecidableEq β] (f : α → β) (segments : List (List β))
    (xs : List α) (same : xs.map f = segments.flatten) (distinct : (xs.map f).Nodup) :
    segments.flatMap (fun segment => xs.filter fun x => f x ∈ segment) = xs := by
  induction segments generalizing xs with
  | nil =>
    rw [List.flatten_nil, List.map_eq_nil_iff] at same
    rw [same]
    rfl
  | cons segment rest ih =>
    rw [List.flatten_cons] at same
    obtain ⟨ys, zs, rfl, own, others⟩ := List.map_eq_append_iff.mp same
    rw [List.map_append] at distinct
    obtain ⟨-, distinctRest, apart⟩ := List.nodup_append.mp distinct
    have inOwn : ∀ x ∈ ys, f x ∈ segment := fun x member => own ▸ List.mem_map_of_mem member
    have notOwn : ∀ x ∈ zs, f x ∉ segment := fun x member inside =>
      apart (f x) (own ▸ inside) (f x) (List.mem_map_of_mem member) rfl
    have notRest : ∀ later ∈ rest, ∀ x ∈ ys, f x ∉ later := by
      intro later listed x member inside
      have right : f x ∈ zs.map f := others ▸ List.mem_flatten.mpr ⟨later, listed, inside⟩
      exact apart (f x) (List.mem_map_of_mem member) (f x) right rfl
    have first : (ys ++ zs).filter (fun x => f x ∈ segment) = ys := by
      rw [List.filter_append, List.filter_eq_self.mpr (by simpa using inOwn),
        List.filter_eq_nil_iff.mpr (by simpa using notOwn), List.append_nil]
    have later : rest.flatMap (fun segment => (ys ++ zs).filter fun x => f x ∈ segment) =
        rest.flatMap fun segment => zs.filter fun x => f x ∈ segment := by
      refine List.flatMap_congr fun segment listed => ?_
      rw [List.filter_append, List.filter_eq_nil_iff.mpr (by simpa using notRest segment listed),
        List.nil_append]
    rw [List.flatMap_cons, first, later, ih zs others distinctRest]

section

variable {nodes : List Node} {rootIds : List String} {subtrees : List (String × List String)}

theorem runIds_of_layout (layout : Layout rootIds nodes) (distinct : (nodes.map Node.id).Nodup)
    (found : Chunk.subtrees? (.ofNodes nodes) rootIds = some subtrees) :
    runIds subtrees = nodes.map Node.id := by
  obtain ⟨rfl, visits⟩ := Chunk.subtrees?_eq_some_iff.mp found
  have whole := layout.visits fun node member => NodeTable.find?_of_mem distinct member
  have joined : ∀ entries : List (String × List String),
      (∀ entry ∈ entries, Visits (.ofNodes nodes) [entry.1] entry.2) →
        Visits (.ofNodes nodes) (entries.map (·.1)) (runIds entries) := by
    intro entries each
    induction entries with
    | nil => exact .nil
    | cons entry rest ih =>
      obtain ⟨first, others⟩ := List.forall_mem_cons.mp each
      exact first.append (ih others)
  exact (joined subtrees visits).unique whole

theorem chunks_of_layout {limit : Limit} {chunks : List Chunk} (layout : Layout rootIds nodes)
    (distinct : (nodes.map Node.id).Nodup) (made : chunksOf nodes rootIds limit = .ok chunks) :
    Partition nodes rootIds chunks ∧ chunks.flatMap Chunk.nodes = nodes := by
  have forest := layout.forest distinct
  obtain ⟨subtrees, found⟩ := forest.exists_subtrees
  obtain ⟨chunks', runs, made', same, cut⟩ := chunksOf_runs (admits_of_chunksOf made) found
  obtain rfl := Except.ok.inj (made.symm.trans made')
  refine ⟨partition_of_runs forest found same cut, ?_⟩
  have all := runIds_of_layout layout distinct found
  obtain ⟨tail, rfl, blank⟩ := cut.whole
  have segments : nodes.map Node.id = (runs.map runIds).flatten := by
    rw [← all, runIds, List.flatMap_append, ← runIds, ← runIds, blank, List.append_nil]
    simp only [runIds, List.flatMap_def, List.map_flatten, List.flatten_flatten, List.map_map]
    rfl
  have sorted := flatMap_filter_segments Node.id (runs.map runIds) nodes segments distinct
  rw [List.flatMap_map] at sorted
  calc chunks.flatMap Chunk.nodes = (chunks.map Chunk.nodes).flatten := List.flatMap_def ..
    _ = (runs.map (Chunk.runNodes nodes)).flatten := by rw [same]
    _ = runs.flatMap (Chunk.runNodes nodes) := (List.flatMap_def ..).symm
    _ = nodes := sorted

end

end PageClip
