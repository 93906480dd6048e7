import Mathlib.Data.List.Induction
import PageClip.Chunk
import PageClip.Proofs.Tree.Visit

/-!
# Packing roots

The groups that roots are packed into are those of runs of consecutive roots.
`pack_runs` says so of the packing alone and `chunksOf_runs` of the chunks that
come out of it.
-/

namespace PageClip

open PageClip.Tree

namespace RootGroup

/-- The group of a run of roots with their subtrees. -/
def ofRun (run : List (String × List String)) : RootGroup :=
  run.foldl (fun group entry => group.add entry.1 entry.2) .empty

/-- The ids in the subtrees of a run of roots. -/
def runIds (run : List (String × List String)) : List String := run.flatMap (·.2)

theorem mem_ids_add {root id : String} {ids : List String} {group : RootGroup} :
    id ∈ (group.add root ids).ids ↔ id ∈ ids ∨ id ∈ group.ids := by
  have folded : ∀ (ids known : List String),
      id ∈ ids.foldl (fun known id => if known.contains id then known else id :: known) known ↔
        id ∈ ids ∨ id ∈ known := by
    intro ids
    induction ids with
    | nil => simp
    | cons first rest ih =>
      intro known
      rw [List.foldl_cons, ih]
      split
      · next old =>
        have member : first ∈ known := by simpa using old
        constructor
        · exact fun h => h.imp_left (List.mem_cons_of_mem _)
        · rintro (h | h)
          · rcases List.mem_cons.mp h with rfl | later
            · exact Or.inr member
            · exact Or.inl later
          · exact Or.inr h
      · simp only [List.mem_cons]
        tauto
  exact folded ids group.ids

theorem ofRun_append (run : List (String × List String)) (root : String) (ids : List String) :
    ofRun (run ++ [(root, ids)]) = (ofRun run).add root ids := by
  simp [ofRun]

theorem mem_ids_ofRun {id : String} {run : List (String × List String)} :
    id ∈ (ofRun run).ids ↔ id ∈ runIds run := by
  induction run using List.reverseRecOn with
  | nil => simp [ofRun, empty, runIds]
  | append_singleton run entry ih =>
    obtain ⟨root, ids⟩ := entry
    rw [ofRun_append, mem_ids_add, ih]
    simp only [runIds, List.flatMap_append, List.mem_append, List.flatMap_cons, List.flatMap_nil,
      List.append_nil]
    exact or_comm

theorem ids_ofRun_eq_nil {run : List (String × List String)} :
    (ofRun run).ids = [] ↔ runIds run = [] := by
  simp only [List.eq_nil_iff_forall_not_mem, mem_ids_ofRun]

end RootGroup

open RootGroup

/-- Roots cut into runs that hold nodes, and at the end roots that hold none. -/
structure Cut (subtrees : List (String × List String))
    (runs : List (List (String × List String))) : Prop where
  filled : ∀ run ∈ runs, runIds run ≠ []
  whole : ∃ tail, subtrees = runs.flatten ++ tail ∧ runIds tail = []

theorem packFrom_runs (limit : Limit) (subtrees run : List (String × List String)) :
    ∃ runs, packFrom limit (ofRun run) subtrees = runs.map ofRun ∧ Cut (run ++ subtrees) runs := by
  induction subtrees generalizing run with
  | nil =>
    simp only [packFrom, RootGroup.toList, List.isEmpty_iff, ids_ofRun_eq_nil]
    split
    · next blank => exact ⟨[], rfl, by simp, run, by simp, blank⟩
    · next filled => exact ⟨[run], rfl, by simpa using filled, [], by simp, rfl⟩
  | cons entry rest ih =>
    obtain ⟨root, ids⟩ := entry
    rw [packFrom]
    split
    · next full =>
      obtain ⟨runs, packed, filled, tail, whole, blank⟩ := ih [(root, ids)]
      have someIds : runIds run ≠ [] := by
        simp only [Bool.and_eq_true, Bool.not_eq_true', List.isEmpty_eq_false_iff] at full
        exact fun none => full.1 (ids_ofRun_eq_nil.mpr none)
      refine ⟨run :: runs, ?_, List.forall_mem_cons.mpr ⟨someIds, filled⟩, tail, ?_, blank⟩
      · rw [List.map_cons, ← packed]
        rfl
      · rw [List.flatten_cons, List.append_assoc, ← whole]
        rfl
    · obtain ⟨runs, packed, cut⟩ := ih (run ++ [(root, ids)])
      rw [ofRun_append] at packed
      exact ⟨runs, packed, by simpa using cut⟩

/-- Packing cuts the list of roots. -/
theorem pack_runs (limit : Limit) (subtrees : List (String × List String)) :
    ∃ runs, pack limit subtrees = runs.map ofRun ∧ Cut subtrees runs :=
  packFrom_runs limit subtrees []

namespace Chunk

theorem subtrees?_eq_some_iff {table : NodeTable} {rootIds : List String}
    {subtrees : List (String × List String)} :
    subtrees? table rootIds = some subtrees ↔
      subtrees.map (·.1) = rootIds ∧ ∀ entry ∈ subtrees, Visits table [entry.1] entry.2 := by
  induction rootIds generalizing subtrees with
  | nil => cases subtrees <;> simp [subtrees?]
  | cons root rest ih =>
    rw [subtrees?]
    constructor
    · intro found
      split at found
      · next ids more first others =>
        obtain rfl := Option.some.inj found
        obtain ⟨same, visits⟩ := ih.mp others
        refine ⟨by rw [List.map_cons, same], List.forall_mem_cons.mpr ⟨?_, visits⟩⟩
        exact subtreeIds?_eq_some_iff.mp first
      · cases found
    · rintro ⟨same, visits⟩
      cases subtrees with
      | nil => cases same
      | cons entry more =>
        obtain ⟨rfl, restSame⟩ := List.cons.inj same
        obtain ⟨visit, visits⟩ := List.forall_mem_cons.mp visits
        rw [subtreeIds?_eq_some_iff.mpr visit, ih.mpr ⟨restSame, visits⟩]

theorem exists_subtrees {table : NodeTable} {rootIds : List String}
    (acyclic : ∀ root ∈ rootIds, table.AcyclicFrom root) :
    ∃ subtrees, subtrees? table rootIds = some subtrees := by
  induction rootIds with
  | nil => exact ⟨[], rfl⟩
  | cons root rest ih =>
    obtain ⟨first, others⟩ := List.forall_mem_cons.mp acyclic
    obtain ⟨ids, walked⟩ := exists_subtreeIds?_iff.mpr first
    obtain ⟨more, found⟩ := ih others
    exact ⟨(root, ids) :: more, by rw [subtrees?, walked, found]⟩

/-- The nodes that a run of roots puts into a chunk. -/
def runNodes (nodes : List Node) (run : List (String × List String)) : List Node :=
  nodes.filter fun node => node.id ∈ runIds run

theorem mem_runNodes {nodes : List Node} {run : List (String × List String)} {node : Node} :
    node ∈ runNodes nodes run ↔ node ∈ nodes ∧ node.id ∈ runIds run := by
  simp [runNodes]

theorem nodes_ofGroup (nodes : List Node) (table : NodeTable) (count number : Nat)
    (run : List (String × List String)) :
    (ofGroup nodes table count number (ofRun run)).nodes = runNodes nodes run := by
  apply List.filter_congr
  intro node _
  simp only [List.contains_eq_mem, mem_ids_ofRun]

theorem map_nodes_ofGroups (nodes : List Node) (table : NodeTable) (count number : Nat)
    (runs : List (List (String × List String))) :
    (ofGroups nodes table count number (runs.map ofRun)).map Chunk.nodes =
      runs.map (runNodes nodes) := by
  induction runs generalizing number with
  | nil => rfl
  | cons run rest ih =>
    rw [List.map_cons, ofGroups, List.map_cons, List.map_cons, nodes_ofGroup, ih]

theorem subset_of_mem_ofGroups {nodes : List Node} {table : NodeTable} {count number : Nat}
    {groups : List RootGroup} {chunk : Chunk}
    (member : chunk ∈ ofGroups nodes table count number groups) : chunk.nodes ⊆ nodes := by
  induction groups generalizing number with
  | nil => cases member
  | cons group rest ih =>
    rcases List.mem_cons.mp member with rfl | later
    · exact List.filter_subset_self _
    · exact ih later

end Chunk

/-- No chunk has a node that the page has not. -/
theorem subset_of_chunksOf {nodes : List Node} {rootIds : List String} {limit : Limit}
    {chunks : List Chunk} (made : chunksOf nodes rootIds limit = .ok chunks) :
    ∀ chunk ∈ chunks, chunk.nodes ⊆ nodes := by
  unfold chunksOf at made
  dsimp only at made
  split at made
  · cases made
  split at made
  · cases made
  · intro chunk member
    rw [← Except.ok.inj made] at member
    exact Chunk.subset_of_mem_ofGroups member

theorem Limit.check_eq_ok_iff {limit : Limit} : limit.check = .ok () ↔ limit.admits 1 = true := by
  unfold Limit.check
  split
  · next none => simp [none, Limit.admits]
  · split
    · next room => simp [room]
    · next small => simp [small]

/-- Chunks hold the nodes of the runs into which the roots are cut. -/
theorem chunksOf_runs {nodes : List Node} {rootIds : List String} {limit : Limit}
    {subtrees : List (String × List String)} (room : limit.admits 1 = true)
    (found : Chunk.subtrees? (.ofNodes nodes) rootIds = some subtrees) :
    ∃ chunks runs, chunksOf nodes rootIds limit = .ok chunks ∧
      chunks.map Chunk.nodes = runs.map (Chunk.runNodes nodes) ∧ Cut subtrees runs := by
  obtain ⟨runs, packed, cut⟩ := pack_runs limit subtrees
  refine ⟨_, runs, ?_, Chunk.map_nodes_ofGroups nodes (.ofNodes nodes) runs.length 1 runs, cut⟩
  simp only [chunksOf, Limit.check_eq_ok_iff.mpr room, found, packed, List.length_map]

theorem admits_of_chunksOf {nodes : List Node} {rootIds : List String} {limit : Limit}
    {chunks : List Chunk} (made : chunksOf nodes rootIds limit = .ok chunks) :
    limit.admits 1 = true := by
  apply Limit.check_eq_ok_iff.mp
  unfold chunksOf at made
  cases checked : limit.check with
  | error fault => simp [checked] at made
  | ok _ => rfl

end PageClip
