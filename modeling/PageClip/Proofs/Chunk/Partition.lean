import Mathlib.Data.List.Basic
import Mathlib.Data.List.Flatten
import Mathlib.Data.List.Nodup
import Mathlib.Data.List.Pairwise
import PageClip.Proofs.Chunk.Packing

/-!
# Chunks as a partition

Where the nodes of a page form a forest, its chunks part the nodes that roots
lead to, and the warning counts the nodes that no root leads to.
-/

namespace PageClip

open Relation PageClip.Tree

/-- Nodes with ids of their own that no chain of child ids leads around in a circle and that stand
in one place at most among root ids and child ids. Ids that name no node may stand anywhere. -/
structure Forest (nodes : List Node) (rootIds : List String) : Prop where
  distinct : (nodes.map Node.id).Nodup
  acyclic : ∀ id, ¬ TransGen (NodeTable.ofNodes nodes).Child id id
  single : ∀ node ∈ nodes, (rootIds ++ nodes.flatMap Node.children).count node.id ≤ 1

/-- Child ids lead from a root to a node. -/
def Reached (nodes : List Node) (rootIds : List String) (node : Node) : Prop :=
  ∃ root ∈ rootIds, ReflTransGen (NodeTable.ofNodes nodes).Child root node.id

open scoped Classical in
/-- The nodes to which no root leads. -/
noncomputable def unreached (nodes : List Node) (rootIds : List String) : List Node :=
  nodes.filter fun node => ¬ Reached nodes rootIds node

namespace Forest

open NodeTable

variable {nodes : List Node} {rootIds : List String}

theorem count_le (forest : Forest nodes rootIds) {id : String}
    (known : ((ofNodes nodes).find? id).isSome) :
    rootIds.count id + (nodes.flatMap Node.children).count id ≤ 1 := by
  obtain ⟨node, member, rfl⟩ := isSome_find?_ofNodes.mp known
  have single := forest.single node member
  rwa [List.count_append] at single

theorem root_of_child (forest : Forest nodes rootIds) {parent id : String}
    (known : ((ofNodes nodes).find? id).isSome) (child : (ofNodes nodes).Child parent id) :
    id ∉ rootIds := by
  intro root
  obtain ⟨node, member, -, below⟩ := mem_children_of_child child
  have inside := List.count_pos_iff.mpr (List.mem_flatMap.mpr ⟨node, member, below⟩)
  have outside := List.count_pos_iff.mpr root
  have := forest.count_le known
  omega

theorem parent_unique (forest : Forest nodes rootIds) {parent other id : String}
    (known : ((ofNodes nodes).find? id).isSome) (child : (ofNodes nodes).Child parent id)
    (child' : (ofNodes nodes).Child other id) : parent = other := by
  obtain ⟨node, member, rfl, below⟩ := mem_children_of_child child
  obtain ⟨node', member', rfl, below'⟩ := mem_children_of_child child'
  have apart : nodes.Pairwise fun a b => ¬ (id ∈ a.children ∧ id ∈ b.children) := by
    apply List.pairwise_of_forall_sublist
    rintro a b pair ⟨first, second⟩
    have twice := (pair.flatMap Node.children).count_le id
    simp only [List.flatMap_cons, List.flatMap_nil, List.append_nil, List.count_append] at twice
    have := List.count_pos_iff.mpr first
    have := List.count_pos_iff.mpr second
    have := forest.count_le known
    omega
  have : Std.Symm fun a b : Node => ¬ (id ∈ a.children ∧ id ∈ b.children) :=
    ⟨fun _ _ h both => h both.symm⟩
  by_contra different
  exact apart.forall member member' (fun same => different (congrArg Node.id same)) ⟨below, below'⟩

/-- Two roots do not lead to one node: where the chains to it meet, its id would stand twice. -/
theorem roots_apart (forest : Forest nodes rootIds) {first second id : String}
    (pair : [first, second].Sublist rootIds) (known : ((ofNodes nodes).find? id).isSome)
    (chain : ReflTransGen (ofNodes nodes).Child first id)
    (chain' : ReflTransGen (ofNodes nodes).Child second id) : False := by
  induction chain with
  | refl =>
    rcases chain'.cases_tail with rfl | ⟨parent, -, child⟩
    · have twice := pair.count_le first
      rw [List.count_cons_self, List.count_cons_self] at twice
      have := forest.count_le known
      omega
    · exact forest.root_of_child known child (pair.subset List.mem_cons_self)
  | tail _ child ih =>
    rcases chain'.cases_tail with rfl | ⟨parent, above, child'⟩
    · exact forest.root_of_child known child (pair.subset (by simp))
    · obtain rfl := forest.parent_unique known child child'
      exact ih (isSome_find?_of_child child) above

theorem exists_subtrees (forest : Forest nodes rootIds) :
    ∃ subtrees, Chunk.subtrees? (ofNodes nodes) rootIds = some subtrees :=
  Chunk.exists_subtrees fun _ _ other _ => forest.acyclic other

theorem subtrees_apart (forest : Forest nodes rootIds) {subtrees : List (String × List String)}
    (found : Chunk.subtrees? (ofNodes nodes) rootIds = some subtrees) :
    subtrees.Pairwise fun a b => ∀ id ∈ a.2, id ∉ b.2 := by
  obtain ⟨same, visits⟩ := Chunk.subtrees?_eq_some_iff.mp found
  apply List.pairwise_of_forall_sublist
  intro a b pair id first second
  have roots := pair.map (·.1)
  rw [same] at roots
  have visitA := visits a (pair.subset List.mem_cons_self)
  have visitB := visits b (pair.subset (by simp))
  obtain ⟨known, root, start, chain⟩ := visitA.mem_iff.mp first
  obtain ⟨-, root', start', chain'⟩ := visitB.mem_iff.mp second
  obtain rfl := List.mem_singleton.mp start
  obtain rfl := List.mem_singleton.mp start'
  exact forest.roots_apart roots known chain chain'

end Forest

open RootGroup

theorem mem_runIds {id : String} {run : List (String × List String)} :
    id ∈ runIds run ↔ ∃ entry ∈ run, id ∈ entry.2 := List.mem_flatMap

theorem reached_iff {nodes : List Node} {rootIds : List String}
    {subtrees : List (String × List String)}
    (found : Chunk.subtrees? (.ofNodes nodes) rootIds = some subtrees) {node : Node}
    (member : node ∈ nodes) : Reached nodes rootIds node ↔ node.id ∈ runIds subtrees := by
  obtain ⟨rfl, visits⟩ := Chunk.subtrees?_eq_some_iff.mp found
  have known := NodeTable.isSome_find?_ofNodes.mpr ⟨node, member, rfl⟩
  rw [mem_runIds]
  constructor
  · rintro ⟨root, start, chain⟩
    obtain ⟨entry, listed, rfl⟩ := List.mem_map.mp start
    exact ⟨entry, listed, (visits entry listed).mem_iff.mpr ⟨known, _, by simp, chain⟩⟩
  · rintro ⟨entry, listed, met⟩
    obtain ⟨-, root, start, chain⟩ := (visits entry listed).mem_iff.mp met
    obtain rfl := List.mem_singleton.mp start
    exact ⟨entry.1, List.mem_map_of_mem listed, chain⟩

namespace Cut

variable {subtrees : List (String × List String)} {runs : List (List (String × List String))}

theorem mem_runIds_iff (cut : Cut subtrees runs) {id : String} :
    id ∈ runIds subtrees ↔ ∃ run ∈ runs, id ∈ runIds run := by
  obtain ⟨tail, rfl, blank⟩ := cut.whole
  rw [runIds, List.flatMap_append, ← runIds, ← runIds, blank, List.append_nil]
  simp only [mem_runIds, List.mem_flatten]
  constructor
  · rintro ⟨entry, ⟨run, listed, inside⟩, met⟩
    exact ⟨run, listed, entry, inside, met⟩
  · rintro ⟨run, listed, entry, inside, met⟩
    exact ⟨entry, ⟨run, listed, inside⟩, met⟩

theorem entry_mem (cut : Cut subtrees runs) {run : List (String × List String)}
    {entry : String × List String} (listed : run ∈ runs) (inside : entry ∈ run) :
    entry ∈ subtrees := by
  obtain ⟨tail, rfl, -⟩ := cut.whole
  exact List.mem_append_left _ (List.mem_flatten.mpr ⟨run, listed, inside⟩)

theorem runs_apart (cut : Cut subtrees runs)
    (apart : subtrees.Pairwise fun a b => ∀ id ∈ a.2, id ∉ b.2) :
    runs.Pairwise fun a b => ∀ id ∈ runIds a, id ∉ runIds b := by
  obtain ⟨tail, rfl, -⟩ := cut.whole
  have flat := (List.pairwise_append.mp apart).1
  refine (List.pairwise_flatten.mp flat).2.imp fun {a b} h id first second => ?_
  obtain ⟨entry, inside, met⟩ := mem_runIds.mp first
  obtain ⟨entry', inside', met'⟩ := mem_runIds.mp second
  exact h entry inside entry' inside' id met met'

end Cut

/-- Chunks that part the nodes to which roots lead. -/
structure Partition (nodes : List Node) (rootIds : List String) (chunks : List Chunk) : Prop where
  /-- A node to which a root leads stands in exactly one chunk. -/
  once : ∀ node ∈ nodes, Reached nodes rootIds node →
    ∃! place : Nat, ∃ chunk : Chunk, chunks[place]? = some chunk ∧ node ∈ chunk.nodes
  reached : ∀ chunk ∈ chunks, ∀ node ∈ chunk.nodes, Reached nodes rootIds node
  ordered : ∀ chunk ∈ chunks, chunk.nodes.Sublist nodes
  /-- A node has all nodes below it in its chunk. -/
  whole : ∀ chunk ∈ chunks, ∀ node ∈ chunk.nodes, ∀ other ∈ nodes,
    ReflTransGen (NodeTable.ofNodes nodes).Child node.id other.id → other ∈ chunk.nodes
  filled : ∀ chunk ∈ chunks, chunk.nodes ≠ []

theorem existsUnique_place {α β : Type} {f : β → List α} {parts : List β} {a : α}
    (apart : parts.Pairwise fun b c => ∀ a ∈ f b, a ∉ f c) (h : ∃ part ∈ parts, a ∈ f part) :
    ∃! place : Nat, ∃ part : β, parts[place]? = some part ∧ a ∈ f part := by
  obtain ⟨part, listed, member⟩ := h
  obtain ⟨place, found⟩ := List.getElem?_of_mem listed
  refine ⟨place, ⟨part, found, member⟩, ?_⟩
  rintro other ⟨part', found', member'⟩
  obtain ⟨bound, rfl⟩ := List.getElem?_eq_some_iff.mp found
  obtain ⟨bound', rfl⟩ := List.getElem?_eq_some_iff.mp found'
  have apart := List.pairwise_iff_getElem.mp apart
  rcases Nat.lt_trichotomy other place with less | same | more
  · exact absurd member (apart other place bound' bound less a member')
  · exact same
  · exact absurd member' (apart place other bound bound' more a member)

section

variable {nodes : List Node} {rootIds : List String} {chunks : List Chunk}
  {subtrees : List (String × List String)} {runs : List (List (String × List String))}

theorem mem_chunk_iff (same : chunks.map Chunk.nodes = runs.map (Chunk.runNodes nodes))
    (cut : Cut subtrees runs) {node : Node} :
    (∃ chunk ∈ chunks, node ∈ chunk.nodes) ↔ node ∈ nodes ∧ node.id ∈ runIds subtrees := by
  have pieces : (∃ chunk ∈ chunks, node ∈ chunk.nodes) ↔
      ∃ piece ∈ chunks.map Chunk.nodes, node ∈ piece := by simp
  rw [pieces, same, cut.mem_runIds_iff]
  simp only [List.mem_map, exists_exists_and_eq_and, Chunk.mem_runNodes]
  exact ⟨fun ⟨run, listed, member, met⟩ => ⟨member, run, listed, met⟩,
    fun ⟨member, run, listed, met⟩ => ⟨run, listed, member, met⟩⟩

theorem chunks_apart (same : chunks.map Chunk.nodes = runs.map (Chunk.runNodes nodes))
    (apart : runs.Pairwise fun a b => ∀ id ∈ runIds a, id ∉ runIds b) :
    chunks.Pairwise fun a b => ∀ node ∈ a.nodes, node ∉ b.nodes := by
  have pieces : (chunks.map Chunk.nodes).Pairwise fun a b => ∀ node ∈ a, node ∉ b := by
    rw [same]
    refine List.pairwise_map.mpr (apart.imp fun {a b} h node first second => ?_)
    exact h node.id (Chunk.mem_runNodes.mp first).2 (Chunk.mem_runNodes.mp second).2
  exact List.pairwise_map.mp pieces

theorem chunk_run (same : chunks.map Chunk.nodes = runs.map (Chunk.runNodes nodes))
    {chunk : Chunk} (listed : chunk ∈ chunks) :
    ∃ run ∈ runs, chunk.nodes = Chunk.runNodes nodes run := by
  have piece := List.mem_map_of_mem (f := Chunk.nodes) listed
  rw [same] at piece
  obtain ⟨run, member, eq⟩ := List.mem_map.mp piece
  exact ⟨run, member, eq.symm⟩

theorem partition_of_runs (forest : Forest nodes rootIds)
    (found : Chunk.subtrees? (.ofNodes nodes) rootIds = some subtrees)
    (same : chunks.map Chunk.nodes = runs.map (Chunk.runNodes nodes)) (cut : Cut subtrees runs) :
    Partition nodes rootIds chunks where
  once := by
    intro node member reached
    have apart := chunks_apart same (cut.runs_apart (forest.subtrees_apart found))
    have met := (reached_iff found member).mp reached
    exact existsUnique_place apart ((mem_chunk_iff same cut).mpr ⟨member, met⟩)
  reached := by
    intro chunk listed node inside
    obtain ⟨member, met⟩ := (mem_chunk_iff same cut).mp ⟨chunk, listed, inside⟩
    exact (reached_iff found member).mpr met
  ordered := by
    intro chunk listed
    obtain ⟨run, -, eq⟩ := chunk_run same listed
    rw [eq]
    exact List.filter_sublist
  whole := by
    intro chunk listed node inside other member chain
    obtain ⟨run, listedRun, eq⟩ := chunk_run same listed
    rw [eq] at inside ⊢
    obtain ⟨entry, inRun, met⟩ := mem_runIds.mp (Chunk.mem_runNodes.mp inside).2
    have visit := (Chunk.subtrees?_eq_some_iff.mp found).2 entry (cut.entry_mem listedRun inRun)
    obtain ⟨-, root, start, above⟩ := visit.mem_iff.mp met
    have known := NodeTable.isSome_find?_ofNodes.mpr ⟨other, member, rfl⟩
    have below := visit.mem_iff.mpr ⟨known, root, start, above.trans chain⟩
    exact Chunk.mem_runNodes.mpr ⟨member, mem_runIds.mpr ⟨entry, inRun, below⟩⟩
  filled := by
    intro chunk listed blank
    obtain ⟨run, listedRun, eq⟩ := chunk_run same listed
    obtain ⟨id, met⟩ := List.exists_mem_of_ne_nil _ (cut.filled run listedRun)
    obtain ⟨entry, inRun, inside⟩ := mem_runIds.mp met
    have visit := (Chunk.subtrees?_eq_some_iff.mp found).2 entry (cut.entry_mem listedRun inRun)
    obtain ⟨node, member, rfl⟩ := NodeTable.isSome_find?_ofNodes.mp (visit.known_of_mem inside)
    have held := Chunk.mem_runNodes.mpr ⟨member, met⟩
    rw [← eq, blank] at held
    exact List.not_mem_nil held

theorem placed_add_unreached (forest : Forest nodes rootIds)
    (found : Chunk.subtrees? (.ofNodes nodes) rootIds = some subtrees)
    (same : chunks.map Chunk.nodes = runs.map (Chunk.runNodes nodes)) (cut : Cut subtrees runs) :
    Chunk.placed chunks + (unreached nodes rootIds).length = nodes.length := by
  classical
  have own : nodes.Nodup := forest.distinct.of_map
  have apart := chunks_apart same (cut.runs_apart (forest.subtrees_apart found))
  have distinct : (chunks.flatMap Chunk.nodes).Nodup := by
    refine List.nodup_flatMap.mpr ⟨fun chunk listed => ?_, apart.imp fun h => ?_⟩
    · exact own.sublist ((partition_of_runs forest found same cut).ordered chunk listed)
    · exact fun node first second => h node first second
  have perm : (chunks.flatMap Chunk.nodes).Perm
      (nodes.filter fun node => Reached nodes rootIds node) := by
    refine (List.perm_ext_iff_of_nodup distinct (own.filter _)).mpr fun node => ?_
    rw [List.mem_flatMap, mem_chunk_iff same cut, List.mem_filter]
    constructor
    · rintro ⟨member, met⟩
      exact ⟨member, decide_eq_true ((reached_iff found member).mpr met)⟩
    · rintro ⟨member, reached⟩
      exact ⟨member, (reached_iff found member).mp (of_decide_eq_true reached)⟩
  have parts := List.length_eq_length_filter_add (l := nodes)
    (fun node => decide (Reached nodes rootIds node))
  rw [Chunk.placed, perm.length_eq, parts, unreached]
  simp

end

/-- The chunks of a forest part the nodes that roots lead to, and exactly where there are others
it is told how many. -/
theorem cutChunks_partition {nodes : List Node} {rootIds : List String} {limit : Limit}
    (forest : Forest nodes rootIds) (room : limit.admits 1 = true) (ids : IdSource)
    (ledger : Ledger) :
    ∃ chunks, Partition nodes rootIds chunks ∧
      (cutChunks nodes rootIds limit).run ids ledger =
        (.ok chunks,
          { ledger with
            events := ledger.events ++
              if (unreached nodes rootIds).length = 0 then []
              else [.unreachableNodes (unreached nodes rootIds).length nodes.length] }) := by
  obtain ⟨subtrees, found⟩ := forest.exists_subtrees
  obtain ⟨chunks, runs, made, same, cut⟩ := chunksOf_runs room found
  refine ⟨chunks, partition_of_runs forest found same cut, ?_⟩
  have total := placed_add_unreached forest found same cut
  have told : chunkEvents nodes chunks =
      if (unreached nodes rootIds).length = 0 then []
      else [.unreachableNodes (unreached nodes rootIds).length nodes.length] := by
    have missing : (nodes.length : Int) - Chunk.placed chunks =
        (unreached nodes rootIds).length := by omega
    rw [chunkEvents, missing]
    by_cases all : (unreached nodes rootIds).length = 0
    · rw [if_pos all, if_pos (by omega)]
    · rw [if_neg all, if_neg (by omega)]
  rw [← told]
  simp only [cutChunks, made, Build.run_bind, Build.run_ofExcept, Build.run_noteAll,
    Build.run_pure]

theorem acyclic_of_rank {nodes : List Node} (rank : String → Nat)
    (down : ∀ node ∈ nodes, ∀ child ∈ node.children, rank node.id < rank child) (id : String) :
    ¬ TransGen (NodeTable.ofNodes nodes).Child id id := by
  have step : ∀ {parent child}, (NodeTable.ofNodes nodes).Child parent child →
      rank parent < rank child := by
    intro parent child h
    obtain ⟨node, member, rfl, below⟩ := NodeTable.mem_children_of_child h
    exact down node member child below
  have lower : ∀ other, TransGen (NodeTable.ofNodes nodes).Child id other →
      rank id < rank other := by
    intro other chain
    induction chain with
    | single child => exact step child
    | tail _ child ih => exact Nat.lt_trans ih (step child)
  exact fun circle => Nat.lt_irrefl _ (lower id circle)

/-- A page with an id that names no node and a node that no root leads to. -/
def strayPage : List Node :=
  [.element ⟨"a", .block, "div", .custom ⟨"div", []⟩, [], ["bb", "gone"]⟩,
    .text ⟨"bb", "in"⟩, .text ⟨"lost", "out"⟩, .text ⟨"c", "end"⟩]

theorem strayPage_forest : Forest strayPage ["a", "gone", "c", "gone"] where
  distinct := by decide
  acyclic := acyclic_of_rank String.length (by decide)
  single := by decide

theorem strayPage_partition :
    Forest strayPage ["a", "gone", "c", "gone"] ∧ (Limit.integer 1).admits 1 = true ∧
      ∃ chunks, Partition strayPage ["a", "gone", "c", "gone"] chunks ∧
        (cutChunks strayPage ["a", "gone", "c", "gone"] (.integer 1)).run (.numbered "n") .fresh =
          (.ok chunks,
            { Ledger.fresh with
              events := Ledger.fresh.events ++
                if (unreached strayPage ["a", "gone", "c", "gone"]).length = 0 then []
                else [.unreachableNodes
                  (unreached strayPage ["a", "gone", "c", "gone"]).length strayPage.length] }) :=
  ⟨strayPage_forest, by decide, cutChunks_partition strayPage_forest (by decide) _ _⟩

end PageClip
