import PageClip.Proofs.Chunk.Fewest

/-!
# Root ids that name no node

Such ids put no node into a chunk, but they stay in the list of roots from which
the label of a chunk is chosen. `chunksOf_knownRoots` says what a page loses by
them: nothing but the labels of the chunks whose one known root has such company.
-/

namespace PageClip

open Relation RootGroup PageClip.Tree

/-! ### Packing without some roots -/

/-- The group without the roots that are not kept. -/
def RootGroup.keep (kept : String → Bool) (group : RootGroup) : RootGroup :=
  ⟨group.roots.filter kept, group.ids⟩

theorem RootGroup.keep_add_kept {kept : String → Bool} {root : String} (isKept : kept root = true)
    (ids : List String) (group : RootGroup) :
    (group.add root ids).keep kept = (group.keep kept).add root ids := by
  simp only [RootGroup.keep, RootGroup.add, List.filter_append, List.filter_singleton, isKept, cond_true]

theorem RootGroup.keep_add_dropped {kept : String → Bool} {root : String}
    (dropped : kept root = false) (group : RootGroup) :
    (group.add root []).keep kept = group.keep kept := by
  simp only [RootGroup.keep, RootGroup.add, List.filter_append, List.filter_singleton, dropped,
    cond_false, List.append_nil, List.foldl_nil]

theorem packFrom_of_overfull {limit : Limit} {group : RootGroup} (filled : group.ids ≠ [])
    (overfull : limit.admits group.ids.length = false) (subtrees : List (String × List String)) :
    packFrom limit group subtrees = group :: packFrom limit .empty subtrees := by
  have solid : group.ids.isEmpty = false := List.isEmpty_eq_false_iff.mpr filled
  cases subtrees with
  | nil => simp [packFrom, RootGroup.toList, RootGroup.empty, filled]
  | cons entry rest =>
    obtain ⟨root, ids⟩ := entry
    have full : limit.admits (group.ids.length + ids.length) = false := by
      rw [Bool.eq_false_iff] at overfull ⊢
      exact fun room => overfull (Limit.admits_of_le (Nat.le_add_right _ _) room)
    rw [packFrom, packFrom, solid, full, Bool.not_false, Bool.and_true, if_pos rfl]
    rfl

/-- Roots with empty subtrees can be left out before packing or after it. One that is met behind a
group over the limit starts the next group early, and what follows it would have started it. -/
theorem packFrom_keep {kept : String → Bool} (limit : Limit)
    {subtrees : List (String × List String)}
    (blank : ∀ entry ∈ subtrees, kept entry.1 = false → entry.2 = []) (group : RootGroup) :
    packFrom limit (group.keep kept) (subtrees.filter fun entry => kept entry.1) =
      (packFrom limit group subtrees).map (RootGroup.keep kept) := by
  induction subtrees generalizing group with
  | nil =>
    rw [List.filter_nil, packFrom, packFrom, RootGroup.toList, RootGroup.toList, apply_ite (List.map _)]
    rfl
  | cons entry rest ih =>
    obtain ⟨root, ids⟩ := entry
    obtain ⟨blankFirst, blankRest⟩ := List.forall_mem_cons.mp blank
    cases isKept : kept root with
    | true =>
      have first : RootGroup.empty.add root ids = (RootGroup.empty.add root ids).keep kept :=
        (keep_add_kept isKept ids .empty).symm
      rw [List.filter_cons_of_pos (by exact isKept), packFrom, packFrom, ← keep_add_kept isKept,
        ih blankRest, first, ih blankRest, ← first, apply_ite (List.map _), List.map_cons]
      rfl
    | false =>
      obtain rfl : ids = [] := blankFirst isKept
      rw [List.filter_cons_of_neg (by simp [isKept]), packFrom]
      split
      · next full =>
        obtain ⟨solid, more⟩ := Bool.and_eq_true_iff.mp full
        have filled : group.ids ≠ [] := by simpa using solid
        have overfull : limit.admits group.ids.length = false := by simpa using more
        rw [packFrom_of_overfull (show (group.keep kept).ids ≠ [] from filled) overfull, List.map_cons,
          ← ih blankRest, keep_add_dropped isKept]
        rfl
      · rw [← ih blankRest, keep_add_dropped isKept]

/-! ### Labels -/

namespace Chunk

/-- The label of a group of which no root gives one. -/
def plainLabel (count number : Nat) : String :=
  if count = 1 then "Complete Page" else s!"Chunk {number}"

theorem plainLabel_head? (count number : Nat) :
    (plainLabel count number).toList.head? = some 'C' := by
  unfold plainLabel
  split
  · rfl
  · rw [String.toList_append]
    rfl

theorem rootLabel?_head? {node : Option Node} {label : String} (own : rootLabel? node = some label) :
    label.toList.head? ≠ some 'C' := by
  have others : ∀ entry ∈ rootLabels, entry.2.toList.head? ≠ some 'C' := by decide
  unfold rootLabel? at own
  split at own
  · next node =>
    obtain ⟨front, back, listed, -⟩ := List.lookup_eq_some_iff.mp own
    exact others (lowercase node.tag, label) (by rw [listed]; simp)
  · cases own

theorem getD_plainLabel_iff {node : Option Node} {count number : Nat} :
    (rootLabel? node).getD (plainLabel count number) = plainLabel count number ↔
      rootLabel? node = none := by
  cases own : rootLabel? node with
  | none => simp
  | some label =>
    have start := plainLabel_head? count number
    have other := rootLabel?_head? own
    constructor
    · intro same
      rw [← same] at start
      exact absurd start other
    · exact fun no => nomatch no

theorem groupLabel_single {group : RootGroup} {root : String} (single : group.roots = [root])
    (table : NodeTable) (count number : Nat) :
    groupLabel table count number group =
      (rootLabel? (table.find? root)).getD (plainLabel count number) := by
  unfold groupLabel
  rw [single]
  rfl

theorem groupLabel_many {group : RootGroup} (many : ∀ root, group.roots ≠ [root])
    (table : NodeTable) (count number : Nat) :
    groupLabel table count number group = plainLabel count number := by
  unfold groupLabel
  split
  · next root single => exact absurd single (many root)
  · rfl

/-- Whether a root names a node. -/
def names (table : NodeTable) (root : String) : Bool := (table.find? root).isSome

theorem find?_of_unnamed {table : NodeTable} {root : String} (unnamed : names table root = false) :
    table.find? root = none := by
  simpa [names] using unnamed

/-- A group with one known root that would give it a label, if it were the only root. -/
def Muted (table : NodeTable) (group : RootGroup) : Prop :=
  ∃ root, group.roots.filter (names table) = [root] ∧ group.roots ≠ [root] ∧
    rootLabel? (table.find? root) ≠ none

theorem groupLabel_keep_iff (table : NodeTable) (count number : Nat) (group : RootGroup) :
    groupLabel table count number group =
        groupLabel table count number (group.keep (names table)) ↔ ¬ Muted table group := by
  by_cases alone : ∃ root, group.roots = [root]
  · obtain ⟨root, single⟩ := alone
    cases named : names table root with
    | true =>
      have same : group.roots.filter (names table) = [root] := by
        rw [single, List.filter_singleton, named]
        rfl
      have unmuted : ¬ Muted table group := by
        rintro ⟨other, rest, apart, -⟩
        rw [same] at rest
        exact apart (rest ▸ single)
      rw [groupLabel_single single, groupLabel_single same]
      exact iff_of_true rfl unmuted
    | false =>
      have blank : group.roots.filter (names table) = [] := by
        rw [single, List.filter_singleton, named]
        rfl
      have unmuted : ¬ Muted table group := by
        rintro ⟨other, rest, -⟩
        simp [blank] at rest
      rw [groupLabel_single single, find?_of_unnamed named,
        groupLabel_many (by simp [RootGroup.keep, blank])]
      exact iff_of_true rfl unmuted
  · have many : ∀ root, group.roots ≠ [root] := fun root single => alone ⟨root, single⟩
    rw [groupLabel_many many]
    by_cases one : ∃ root, group.roots.filter (names table) = [root]
    · obtain ⟨root, rest⟩ := one
      rw [groupLabel_single rest, eq_comm, getD_plainLabel_iff]
      constructor
      · rintro unlabelled ⟨other, rest', -, labelled⟩
        obtain rfl := List.singleton_inj.mp (rest.symm.trans rest')
        exact labelled unlabelled
      · intro unmuted
        by_contra labelled
        exact unmuted ⟨root, rest, many root, labelled⟩
    · rw [groupLabel_many fun root rest => one ⟨root, rest⟩]
      exact iff_of_true rfl fun ⟨root, rest, _⟩ => one ⟨root, rest⟩

theorem ofGroups_keep_iff (nodes : List Node) (table : NodeTable) (count number : Nat)
    (groups : List RootGroup) :
    ofGroups nodes table count number groups =
        ofGroups nodes table count number (groups.map (RootGroup.keep (names table))) ↔
      ∀ group ∈ groups, ¬ Muted table group := by
  induction groups generalizing number with
  | nil => simp [ofGroups]
  | cons group rest ih =>
    rw [List.map_cons, ofGroups, ofGroups, List.cons.injEq, ih, List.forall_mem_cons,
      ← groupLabel_keep_iff table count number group]
    simp [ofGroup, RootGroup.keep]

theorem map_nodes_ofGroups_keep (nodes : List Node) (table : NodeTable) (count number : Nat)
    (kept : String → Bool) (groups : List RootGroup) :
    (ofGroups nodes table count number (groups.map (RootGroup.keep kept))).map Chunk.nodes =
      (ofGroups nodes table count number groups).map Chunk.nodes := by
  induction groups generalizing number with
  | nil => rfl
  | cons group rest ih =>
    rw [List.map_cons, ofGroups, ofGroups, List.map_cons, List.map_cons, ih]
    rfl

theorem subtrees?_filter {table : NodeTable} {rootIds : List String}
    {subtrees : List (String × List String)} (found : subtrees? table rootIds = some subtrees)
    (kept : String → Bool) :
    subtrees? table (rootIds.filter kept) = some (subtrees.filter fun entry => kept entry.1) := by
  obtain ⟨rfl, visits⟩ := subtrees?_eq_some_iff.mp found
  refine subtrees?_eq_some_iff.mpr ⟨?_, ?_⟩
  · rw [List.filter_map]
    rfl
  · exact fun entry member => visits entry (List.mem_of_mem_filter member)

theorem blank_of_unknown {table : NodeTable} {rootIds : List String}
    {subtrees : List (String × List String)} (found : subtrees? table rootIds = some subtrees) :
    ∀ entry ∈ subtrees, names table entry.1 = false → entry.2 = [] := by
  intro entry member unknown
  have visit := (subtrees?_eq_some_iff.mp found).2 entry member
  exact visit.unique (.unknown (find?_of_unnamed unknown) .nil)

end Chunk

/-! ### Chunks -/

/-- Without the root ids that name no node, chunks have the same nodes. They have the same labels
exactly if no group mutes a root. -/
theorem chunksOf_knownRoots {nodes : List Node} {rootIds : List String} {limit : Limit}
    (acyclic : ∀ root ∈ rootIds, (NodeTable.ofNodes nodes).AcyclicFrom root)
    (room : limit.admits 1 = true) :
    ∃ subtrees chunks kept, Chunk.subtrees? (.ofNodes nodes) rootIds = some subtrees ∧
      chunksOf nodes rootIds limit = .ok chunks ∧
      chunksOf nodes (rootIds.filter (Chunk.names (.ofNodes nodes))) limit = .ok kept ∧
      chunks.map Chunk.nodes = kept.map Chunk.nodes ∧
      (chunks = kept ↔ ∀ group ∈ pack limit subtrees, ¬ Chunk.Muted (.ofNodes nodes) group) := by
  obtain ⟨subtrees, found⟩ := Chunk.exists_subtrees acyclic
  have foundKept := Chunk.subtrees?_filter found (Chunk.names (.ofNodes nodes))
  have packed : pack limit (subtrees.filter fun entry => Chunk.names (.ofNodes nodes) entry.1) =
      (pack limit subtrees).map (RootGroup.keep (Chunk.names (.ofNodes nodes))) :=
    packFrom_keep limit (Chunk.blank_of_unknown found) .empty
  have checked := Limit.check_eq_ok_iff.mpr room
  refine ⟨subtrees, _, _, found, ?_, ?_, (Chunk.map_nodes_ofGroups_keep ..).symm,
    Chunk.ofGroups_keep_iff nodes (.ofNodes nodes) (pack limit subtrees).length 1 _⟩
  · simp only [chunksOf, checked, found]
  · simp only [chunksOf, checked, foundKept, packed, List.length_map]

/-- A page with a header, the only root that it has. -/
def headedPage : List Node := [
  .element ⟨"a", .block, "header", .custom ⟨"header", []⟩, [], ["bb", "gone"]⟩,
  .text ⟨"bb", "in"⟩]

theorem headedPage_acyclic (id : String) : ¬ TransGen (NodeTable.ofNodes headedPage).Child id id :=
  acyclic_of_rank String.length (by decide) id

theorem headedPage_knownRoots :
    (∀ root ∈ ["a", "gone"], (NodeTable.ofNodes headedPage).AcyclicFrom root) ∧
      (Limit.integer 1).admits 1 = true ∧
      ∃ subtrees chunks kept, Chunk.subtrees? (.ofNodes headedPage) ["a", "gone"] = some subtrees ∧
        chunksOf headedPage ["a", "gone"] (.integer 1) = .ok chunks ∧
        chunksOf headedPage (["a", "gone"].filter (Chunk.names (.ofNodes headedPage)))
          (.integer 1) = .ok kept ∧
        chunks.map Chunk.nodes = kept.map Chunk.nodes ∧
        (chunks = kept ↔
          ∀ group ∈ pack (.integer 1) subtrees, ¬ Chunk.Muted (.ofNodes headedPage) group) := by
  have acyclic : ∀ root ∈ ["a", "gone"], (NodeTable.ofNodes headedPage).AcyclicFrom root :=
    fun _ _ other _ => headedPage_acyclic other
  exact ⟨acyclic, by decide, chunksOf_knownRoots acyclic (by decide)⟩

/-- With an unknown root beside it the header does not give its label. -/
theorem headedPage_muted :
    (headedPage.map Node.id).Nodup ∧
      (∀ id, ¬ TransGen (NodeTable.ofNodes headedPage).Child id id) ∧
      (Limit.integer 10).admits 1 = true ∧
      ["gone", "a"].filter (Chunk.names (.ofNodes headedPage)) = ["a"] ∧
      (chunksOf headedPage ["gone", "a"] (.integer 10)).map (List.map Chunk.label) =
        .ok ["Complete Page"] ∧
      (chunksOf headedPage ["a"] (.integer 10)).map (List.map Chunk.label) = .ok ["Header"] ∧
      chunksOf headedPage ["gone", "a"] (.integer 10) ≠ chunksOf headedPage ["a"] (.integer 10) := by
  have beside : (chunksOf headedPage ["gone", "a"] (.integer 10)).map (List.map Chunk.label) =
      .ok ["Complete Page"] := by decide +kernel
  have alone : (chunksOf headedPage ["a"] (.integer 10)).map (List.map Chunk.label) =
      .ok ["Header"] := by decide +kernel
  refine ⟨by decide, headedPage_acyclic, by decide, by decide, beside, alone, ?_⟩
  intro same
  rw [same, alone] at beside
  exact absurd beside (by decide)

end PageClip
