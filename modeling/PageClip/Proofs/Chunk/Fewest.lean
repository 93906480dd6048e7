import PageClip.Proofs.Chunk.Partition

/-!
# As few chunks as can be

Of all ways to cut the roots into groups that keep within the limit, or hold a
single root, packing takes one with the fewest groups (`chunksOf_fewest`). A node
that can be reached in two ways below a root is counted twice, so this is said of
trees only; `sharedPage_chunks` is a page where it fails.
-/

namespace PageClip

open Relation RootGroup PageClip.Tree

/-! ### Limits and sizes -/

theorem Limit.admits_of_le {limit : Limit} {fewer count : Nat} (le : fewer ≤ count)
    (room : limit.admits count = true) : limit.admits fewer = true := by
  cases limit with
  | missing => exact room
  | notNumeric => exact room
  | integer value =>
    have room : (count : Int) ≤ value := of_decide_eq_true room
    exact decide_eq_true (by omega)
  | flag value =>
    have room : count ≤ value.toNat := of_decide_eq_true room
    exact decide_eq_true (Nat.le_trans le room)
  | real value =>
    obtain ⟨negative, magnitude⟩ := value
    simp only [Limit.admits, Decimal.Binary64.atLeast] at room ⊢
    cases magnitude with
    | infinite => exact room
    | finite mantissa exponent =>
      dsimp only at room ⊢
      generalize Decimal.scale 2 mantissa 1 exponent = ratio at room ⊢
      obtain ⟨num, den⟩ := ratio
      cases negative with
      | false =>
        have most : count * den ≤ num := of_decide_eq_true room
        exact decide_eq_true (Nat.le_trans (Nat.mul_le_mul_right den le) most)
      | true =>
        simp only [if_true, Bool.and_eq_true, beq_iff_eq] at room ⊢
        exact ⟨by omega, room.2⟩

namespace RootGroup

theorem length_ids_add_le (root : String) (ids : List String) (group : RootGroup) :
    (group.add root ids).ids.length ≤ group.ids.length + ids.length := by
  have folded : ∀ (ids known : List String),
      (ids.foldl (fun known id => if known.contains id then known else id :: known) known).length ≤
        known.length + ids.length := by
    intro ids
    induction ids with
    | nil => simp
    | cons id rest ih =>
      intro known
      have later := ih (if known.contains id then known else id :: known)
      rw [List.foldl_cons, List.length_cons]
      split at later
      · next old => rw [if_pos old]; omega
      · next fresh => rw [if_neg fresh]; rw [List.length_cons] at later; omega
  exact folded ids group.ids

theorem nodup_ids_add (root : String) (ids : List String) {group : RootGroup}
    (distinct : group.ids.Nodup) : (group.add root ids).ids.Nodup := by
  have folded : ∀ (ids known : List String), known.Nodup →
      (ids.foldl (fun known id => if known.contains id then known else id :: known) known).Nodup := by
    intro ids
    induction ids with
    | nil => exact fun known own => own
    | cons id rest ih =>
      intro known own
      rw [List.foldl_cons]
      apply ih
      split
      · exact own
      · next fresh => exact List.nodup_cons.mpr ⟨by simpa using fresh, own⟩
  exact folded ids group.ids distinct

theorem nodup_ids_ofRun (run : List (String × List String)) : (ofRun run).ids.Nodup := by
  induction run using List.reverseRecOn with
  | nil => exact List.nodup_nil
  | append_singleton run entry ih =>
    rw [ofRun_append]
    exact nodup_ids_add entry.1 entry.2 ih

theorem runIds_append (run more : List (String × List String)) :
    runIds (run ++ more) = runIds run ++ runIds more := List.flatMap_append

theorem length_ids_ofRun {run : List (String × List String)} (distinct : (runIds run).Nodup) :
    (ofRun run).ids.length = (runIds run).length := by
  have same : ((ofRun run).ids).Perm (runIds run) :=
    (List.perm_ext_iff_of_nodup (nodup_ids_ofRun run) distinct).mpr fun _ => mem_ids_ofRun
  exact same.length_eq

end RootGroup

/-! ### Groups of roots -/

open scoped Classical in
/-- The nodes to which a group of roots leads, in the order of the page. -/
noncomputable def reached (nodes : List Node) (group : List String) : List Node :=
  nodes.filter fun node => Reached nodes group node

theorem length_reached_le (nodes : List Node) {group more : List String} (part : group ⊆ more) :
    (reached nodes group).length ≤ (reached nodes more).length := by
  classical
  have sub : (reached nodes group).Sublist (reached nodes more) := by
    refine List.monotone_filter_right nodes fun node inside => ?_
    obtain ⟨root, listed, chain⟩ := of_decide_eq_true inside
    exact decide_eq_true ⟨root, part listed, chain⟩
  exact sub.length_le

/-- A way to cut a list of roots into groups, of which one may be too large only if it is a single
root. -/
structure Grouping (nodes : List Node) (limit : Limit) (rootIds : List String)
    (groups : List (List String)) : Prop where
  whole : groups.flatten = rootIds
  filled : ∀ group ∈ groups, group ≠ []
  fits : ∀ group ∈ groups,
    limit.admits (reached nodes group).length = true ∨ ∃ root, group = [root]

namespace Grouping

variable {nodes : List Node} {limit : Limit} {rootIds : List String} {groups : List (List String)}

theorem nil : Grouping nodes limit [] [] := ⟨rfl, by simp, by simp⟩

/-- Without its first root a list needs no more groups. -/
theorem tail {root : String} (h : Grouping nodes limit (root :: rootIds) groups) :
    ∃ fewer, Grouping nodes limit rootIds fewer ∧ fewer.length ≤ groups.length := by
  obtain ⟨whole, filled, fits⟩ := h
  cases groups with
  | nil => cases whole
  | cons group groups =>
    obtain ⟨solid, filledRest⟩ := List.forall_mem_cons.mp filled
    obtain ⟨fit, fitsRest⟩ := List.forall_mem_cons.mp fits
    cases group with
    | nil => exact absurd rfl solid
    | cons first group =>
      rw [List.flatten_cons, List.cons_append] at whole
      obtain ⟨rfl, rest⟩ := List.cons.inj whole
      cases group with
      | nil => exact ⟨groups, ⟨rest, filledRest, fitsRest⟩, Nat.le_succ _⟩
      | cons second group =>
        have fitTail : limit.admits (reached nodes (second :: group)).length = true := by
          rcases fit with room | ⟨single, alone⟩
          · exact Limit.admits_of_le (length_reached_le nodes (List.subset_cons_self ..)) room
          · simp at alone
        refine ⟨(second :: group) :: groups, ⟨rest, ?_, ?_⟩, Nat.le_refl _⟩
        · exact List.forall_mem_cons.mpr ⟨List.cons_ne_nil _ _, filledRest⟩
        · exact List.forall_mem_cons.mpr ⟨Or.inl fitTail, fitsRest⟩

theorem drop {front : List String} (h : Grouping nodes limit (front ++ rootIds) groups) :
    ∃ fewer, Grouping nodes limit rootIds fewer ∧ fewer.length ≤ groups.length := by
  induction front generalizing groups with
  | nil => exact ⟨groups, h, Nat.le_refl _⟩
  | cons root front ih =>
    obtain ⟨shorter, grouping, le⟩ := h.tail
    obtain ⟨fewer, rest, le'⟩ := ih grouping
    exact ⟨fewer, rest, Nat.le_trans le' le⟩

/-- Where the roots in front and one root more do not fit, the first group ends in front of that
root at the latest, so the rest needs one group less. -/
theorem after_full {front : List String} {root : String}
    (h : Grouping nodes limit (front ++ root :: rootIds) groups) (solid : front ≠ [])
    (full : ¬ limit.admits (reached nodes (front ++ [root])).length = true) :
    ∃ fewer, Grouping nodes limit (root :: rootIds) fewer ∧ fewer.length < groups.length := by
  obtain ⟨whole, filled, fits⟩ := h
  cases groups with
  | nil => simp at whole
  | cons group groups =>
    obtain ⟨-, filledRest⟩ := List.forall_mem_cons.mp filled
    obtain ⟨fit, fitsRest⟩ := List.forall_mem_cons.mp fits
    have short : ∀ more, group = front ++ root :: more → False := by
      rintro more rfl
      rcases fit with room | ⟨single, alone⟩
      · refine full (Limit.admits_of_le (length_reached_le nodes ?_) room)
        exact fun id listed => by
          rcases List.mem_append.mp listed with early | late
          · exact List.mem_append_left _ early
          · exact List.mem_append_right _ (List.mem_singleton.mp late ▸ List.mem_cons_self)
      · have length := congrArg List.length alone
        have := List.length_pos_iff.mpr solid
        simp only [List.length_append, List.length_cons, List.length_nil] at length
        omega
    rw [List.flatten_cons] at whole
    rcases List.append_eq_append_iff.mp whole with ⟨more, -, rest⟩ | ⟨more, longer, rest⟩
    · obtain ⟨fewer, grouping, le⟩ := drop ⟨rest, filledRest, fitsRest⟩
      exact ⟨fewer, grouping, Nat.lt_succ_of_le le⟩
    · cases more with
      | nil => exact ⟨groups, ⟨rest.symm, filledRest, fitsRest⟩, Nat.lt_succ_self _⟩
      | cons first more =>
        obtain ⟨rfl, -⟩ := List.cons.inj rest
        exact absurd longer (short more)

end Grouping

/-! ### Packing -/

section

variable {nodes : List Node} {limit : Limit}

theorem reached_eq_runNodes {run : List (String × List String)}
    (visits : ∀ entry ∈ run, Visits (.ofNodes nodes) [entry.1] entry.2) :
    reached nodes (run.map (·.1)) = Chunk.runNodes nodes run := by
  classical
  have found := Chunk.subtrees?_eq_some_iff.mpr ⟨rfl, visits⟩
  refine List.filter_congr fun node member => ?_
  exact decide_eq_decide.mpr (reached_iff found member)

theorem length_reached {run : List (String × List String)} (distinct : (nodes.map Node.id).Nodup)
    (visits : ∀ entry ∈ run, Visits (.ofNodes nodes) [entry.1] entry.2) :
    (reached nodes (run.map (·.1))).length = (ofRun run).ids.length := by
  rw [reached_eq_runNodes visits]
  have own : ((Chunk.runNodes nodes run).map Node.id).Nodup :=
    distinct.sublist (List.filter_sublist.map Node.id)
  have same : ((Chunk.runNodes nodes run).map Node.id).Perm (ofRun run).ids := by
    refine (List.perm_ext_iff_of_nodup own (nodup_ids_ofRun run)).mpr fun id => ?_
    rw [mem_ids_ofRun, List.mem_map]
    constructor
    · rintro ⟨node, inside, rfl⟩
      exact (Chunk.mem_runNodes.mp inside).2
    · intro met
      obtain ⟨entry, listed, inside⟩ := mem_runIds.mp met
      have known := (visits entry listed).known_of_mem inside
      obtain ⟨node, member, rfl⟩ := NodeTable.isSome_find?_ofNodes.mp known
      exact ⟨node, Chunk.mem_runNodes.mpr ⟨member, met⟩, rfl⟩
  have lengths := same.length_eq
  rwa [List.length_map] at lengths

/-- With one subtree more a group counts as many nodes more as that subtree has. -/
theorem length_reached_next {run : List (String × List String)} {root : String} {ids : List String}
    (distinct : (nodes.map Node.id).Nodup)
    (visits : ∀ entry ∈ run ++ [(root, ids)], Visits (.ofNodes nodes) [entry.1] entry.2)
    (once : (runIds (run ++ [(root, ids)])).Nodup) :
    (reached nodes (run.map (·.1) ++ [root])).length = (ofRun run).ids.length + ids.length := by
  have onceRun : (runIds run).Nodup := by
    rw [runIds_append] at once
    exact (List.nodup_append.mp once).1
  have single : runIds [(root, ids)] = ids := by simp [runIds]
  have both := length_reached distinct visits
  rw [length_ids_ofRun once, runIds_append, List.length_append, single, List.map_append] at both
  rw [length_ids_ofRun onceRun]
  exact both

theorem roots_ofRun (run : List (String × List String)) :
    (ofRun run).roots = run.map (·.1) := by
  induction run using List.reverseRecOn with
  | nil => rfl
  | append_singleton run entry ih =>
    rw [ofRun_append, RootGroup.add, ih, List.map_append]
    rfl

theorem fits_of_small {run : List (String × List String)} (distinct : (nodes.map Node.id).Nodup)
    (visits : ∀ entry ∈ run, Visits (.ofNodes nodes) [entry.1] entry.2)
    (small : limit.admits (ofRun run).ids.length = true ∨ ∃ entry, run = [entry]) :
    limit.admits (reached nodes (run.map (·.1))).length = true ∨
      ∃ root, run.map (·.1) = [root] := by
  rw [length_reached distinct visits]
  exact small.imp_right fun ⟨entry, alone⟩ => ⟨entry.1, by rw [alone]; rfl⟩

theorem Grouping.cons {group rootIds : List String} {groups : List (List String)}
    (h : Grouping nodes limit rootIds groups) (solid : group ≠ [])
    (fit : limit.admits (reached nodes group).length = true ∨ ∃ root, group = [root]) :
    Grouping nodes limit (group ++ rootIds) (group :: groups) where
  whole := by rw [List.flatten_cons, h.whole]
  filled := List.forall_mem_cons.mpr ⟨solid, h.filled⟩
  fits := List.forall_mem_cons.mpr ⟨fit, h.fits⟩

variable {run subtrees : List (String × List String)}

theorem ids_ofRun_ne_nil (filled : ∀ entry ∈ run, entry.2 ≠ []) (solid : run ≠ []) :
    (ofRun run).ids ≠ [] := by
  intro blank
  obtain ⟨entry, listed⟩ := List.exists_mem_of_ne_nil run solid
  have nothing := List.flatMap_eq_nil_iff.mp (ids_ofRun_eq_nil.mp blank)
  exact filled entry listed (nothing entry listed)

/-- Packing groups the roots; `run` is the group that is being filled. -/
theorem packFrom_grouping (distinct : (nodes.map Node.id).Nodup)
    (visits : ∀ entry ∈ run ++ subtrees, Visits (.ofNodes nodes) [entry.1] entry.2)
    (filled : ∀ entry ∈ run ++ subtrees, entry.2 ≠ [])
    (small : limit.admits (ofRun run).ids.length = true ∨ ∃ entry, run = [entry]) :
    Grouping nodes limit ((run ++ subtrees).map (·.1))
      ((packFrom limit (ofRun run) subtrees).map RootGroup.roots) := by
  induction subtrees generalizing run with
  | nil =>
    rw [List.append_nil] at visits filled ⊢
    rw [packFrom, RootGroup.toList]
    by_cases solid : run = []
    · subst solid
      exact .nil
    · have some : ¬ (ofRun run).ids.isEmpty = true := by
        simpa using ids_ofRun_ne_nil filled solid
      have grouping := Grouping.cons .nil (by simpa using solid) (fits_of_small distinct visits small)
      rw [if_neg some, List.map_singleton, roots_ofRun]
      rwa [List.append_nil] at grouping
  | cons entry rest ih =>
    obtain ⟨root, ids⟩ := entry
    have visitsRun := fun entry listed => visits entry (List.mem_append_left _ listed)
    rw [packFrom]
    split
    · next full =>
      have solid : run ≠ [] := by
        rintro rfl
        simp [ofRun, RootGroup.empty] at full
      have later := @ih [(root, ids)]
        (fun entry listed => visits entry (List.mem_append_right _ listed))
        (fun entry listed => filled entry (List.mem_append_right _ listed)) (Or.inr ⟨_, rfl⟩)
      have fit := fits_of_small distinct visitsRun small
      rw [List.map_cons, roots_ofRun, List.map_append]
      exact later.cons (by simpa using solid) fit
    · next room =>
      rw [List.append_cons] at visits filled ⊢
      rw [← ofRun_append]
      refine ih visits filled ?_
      by_cases solid : run = []
      · exact Or.inr ⟨(root, ids), by rw [solid]; rfl⟩
      · have some := ids_ofRun_ne_nil
          (fun entry listed => filled entry (by simp [listed])) solid
        have fit : limit.admits ((ofRun run).ids.length + ids.length) = true := by
          simpa [some] using room
        rw [ofRun_append]
        exact Or.inl (Limit.admits_of_le (length_ids_add_le root ids (ofRun run)) fit)

/-- No other grouping has fewer groups, if no subtree meets a node twice or a node of another. -/
theorem length_packFrom_le (distinct : (nodes.map Node.id).Nodup)
    (visits : ∀ entry ∈ run ++ subtrees, Visits (.ofNodes nodes) [entry.1] entry.2)
    (filled : ∀ entry ∈ run ++ subtrees, entry.2 ≠ []) (once : (runIds (run ++ subtrees)).Nodup)
    {groups : List (List String)}
    (h : Grouping nodes limit ((run ++ subtrees).map (·.1)) groups) :
    (packFrom limit (ofRun run) subtrees).length ≤ groups.length := by
  induction subtrees generalizing run groups with
  | nil =>
    rw [packFrom, RootGroup.toList]
    split
    · exact Nat.zero_le _
    · next some =>
      have solid : groups ≠ [] := by
        rintro rfl
        have none := List.map_eq_nil_iff.mp h.whole.symm
        rw [List.append_nil] at none
        exact some (by rw [none]; rfl)
      exact List.length_pos_iff.mpr solid
  | cons entry rest ih =>
    obtain ⟨root, ids⟩ := entry
    rw [packFrom]
    split
    · next full =>
      simp only [Bool.and_eq_true, Bool.not_eq_true', List.isEmpty_eq_false_iff] at full
      have solid : run.map (·.1) ≠ [] := by
        intro none
        rw [List.map_eq_nil_iff.mp none] at full
        exact full.1 rfl
      rw [List.append_cons] at visits once
      have onceBoth : (runIds (run ++ [(root, ids)])).Nodup := by
        rw [runIds_append] at once
        exact (List.nodup_append.mp once).1
      have sum := length_reached_next distinct
        (fun entry listed => visits entry (List.mem_append_left _ listed)) onceBoth
      rw [← List.append_cons] at visits once
      rw [List.map_append, List.map_cons] at h
      obtain ⟨fewer, grouping, less⟩ := h.after_full solid (by rw [sum]; simpa using full.2)
      have onceRest : (runIds ([(root, ids)] ++ rest)).Nodup := by
        rw [runIds_append] at once
        exact (List.nodup_append.mp once).2.1
      have later := @ih [(root, ids)]
        (fun entry listed => visits entry (List.mem_append_right _ listed))
        (fun entry listed => filled entry (List.mem_append_right _ listed)) onceRest _ grouping
      rw [List.length_cons]
      exact Nat.lt_of_le_of_lt later less
    · rw [List.append_cons] at visits filled once h
      rw [← ofRun_append]
      exact ih visits filled once h

end

/-- Roots of the same page with subtrees of their own, in which no chain of child ids leads around
in a circle. -/
structure Grove (nodes : List Node) (rootIds : List String) : Prop where
  distinct : (nodes.map Node.id).Nodup
  distinctRoots : rootIds.Nodup
  known : ∀ root ∈ rootIds, ∃ node ∈ nodes, node.id = root
  acyclic : ∀ root ∈ rootIds, (NodeTable.ofNodes nodes).AcyclicFrom root
  apart : ∀ root ∈ rootIds, ∀ other ∈ rootIds, root ≠ other →
    ∀ node ∈ nodes, Reached nodes [root] node → ¬ Reached nodes [other] node

/-- No node can be reached from a root in two ways. -/
def IsTree (nodes : List Node) (root : String) : Prop :=
  ∀ ids, Visits (.ofNodes nodes) [root] ids → ids.Nodup

theorem isTree_of_subtrees {nodes : List Node} {rootIds : List String}
    {subtrees : List (String × List String)}
    (found : Chunk.subtrees? (.ofNodes nodes) rootIds = some subtrees)
    (once : ∀ entry ∈ subtrees, entry.2.Nodup) : ∀ root ∈ rootIds, IsTree nodes root := by
  obtain ⟨rfl, visits⟩ := Chunk.subtrees?_eq_some_iff.mp found
  intro root listed ids visit
  obtain ⟨entry, member, rfl⟩ := List.mem_map.mp listed
  rw [visit.unique (visits entry member)]
  exact once entry member

namespace Grove

variable {nodes : List Node} {rootIds : List String} {subtrees : List (String × List String)}

theorem filled (grove : Grove nodes rootIds)
    (found : Chunk.subtrees? (.ofNodes nodes) rootIds = some subtrees) :
    ∀ entry ∈ subtrees, entry.2 ≠ [] := by
  obtain ⟨same, visits⟩ := Chunk.subtrees?_eq_some_iff.mp found
  intro entry listed blank
  have root : entry.1 ∈ rootIds := same ▸ List.mem_map_of_mem listed
  have known := NodeTable.isSome_find?_ofNodes.mpr (grove.known entry.1 root)
  have own := (visits entry listed).mem_iff.mpr ⟨known, entry.1, List.mem_cons_self, .refl⟩
  rw [blank] at own
  exact List.not_mem_nil own

theorem nodup_runIds (grove : Grove nodes rootIds)
    (found : Chunk.subtrees? (.ofNodes nodes) rootIds = some subtrees)
    (trees : ∀ root ∈ rootIds, IsTree nodes root) : (runIds subtrees).Nodup := by
  obtain ⟨same, visits⟩ := Chunk.subtrees?_eq_some_iff.mp found
  have root : ∀ entry ∈ subtrees, entry.1 ∈ rootIds :=
    fun entry listed => same ▸ List.mem_map_of_mem listed
  have distinct : subtrees.Pairwise fun a b => a.1 ≠ b.1 := by
    have own := grove.distinctRoots
    rw [← same] at own
    exact List.pairwise_map.mp own
  refine List.nodup_flatMap.mpr ⟨fun entry listed => ?_, ?_⟩
  · exact trees entry.1 (root entry listed) entry.2 (visits entry listed)
  · refine distinct.imp_of_mem fun {a b} listedA listedB different id inA inB => ?_
    obtain ⟨known, start, isA, chainA⟩ := (visits a listedA).mem_iff.mp inA
    obtain ⟨-, start', isB, chainB⟩ := (visits b listedB).mem_iff.mp inB
    obtain ⟨node, member, rfl⟩ := NodeTable.isSome_find?_ofNodes.mp known
    exact grove.apart a.1 (root a listedA) b.1 (root b listedB) different node member
      ⟨start, isA, chainA⟩ ⟨start', isB, chainB⟩

/-- Subtrees that can be walked and have no id in common are a grove. -/
theorem of_subtrees (distinct : (nodes.map Node.id).Nodup) (distinctRoots : rootIds.Nodup)
    (found : Chunk.subtrees? (.ofNodes nodes) rootIds = some subtrees)
    (own : ∀ entry ∈ subtrees, entry.1 ∈ entry.2)
    (apart : ∀ a ∈ subtrees, ∀ b ∈ subtrees, a.1 ≠ b.1 → ∀ id ∈ a.2, id ∉ b.2) :
    Grove nodes rootIds := by
  obtain ⟨rfl, visits⟩ := Chunk.subtrees?_eq_some_iff.mp found
  refine ⟨distinct, distinctRoots, ?_, ?_, ?_⟩
  · intro root listed
    obtain ⟨entry, member, rfl⟩ := List.mem_map.mp listed
    have known := (visits entry member).known_of_mem (own entry member)
    exact NodeTable.isSome_find?_ofNodes.mp known
  · intro root listed
    obtain ⟨entry, member, rfl⟩ := List.mem_map.mp listed
    exact (visits entry member).acyclicFrom
  · rintro root listed other listed' different node present ⟨start, first, chain⟩
      ⟨start', second, chain'⟩
    obtain rfl := List.mem_singleton.mp first
    obtain rfl := List.mem_singleton.mp second
    obtain ⟨entry, member, rfl⟩ := List.mem_map.mp listed
    obtain ⟨entry', member', rfl⟩ := List.mem_map.mp listed'
    have known := NodeTable.isSome_find?_ofNodes.mpr ⟨node, present, rfl⟩
    have met := (visits entry member).mem_iff.mpr ⟨known, entry.1, List.mem_cons_self, chain⟩
    have met' := (visits entry' member').mem_iff.mpr ⟨known, entry'.1, List.mem_cons_self, chain'⟩
    exact apart entry member entry' member' different node.id met met'

end Grove

/-- Chunks are the subtrees of consecutive roots, one that exceeds the limit is the subtree of a
single root, and where the subtrees are trees no other way to group the roots so has fewer groups. -/
theorem chunksOf_fewest {nodes : List Node} {rootIds : List String} {limit : Limit}
    (grove : Grove nodes rootIds) (room : limit.admits 1 = true) :
    ∃ chunks groups, chunksOf nodes rootIds limit = .ok chunks ∧
      Grouping nodes limit rootIds groups ∧
      chunks.map Chunk.nodes = groups.map (reached nodes) ∧
      ((∀ root ∈ rootIds, IsTree nodes root) →
        ∀ others, Grouping nodes limit rootIds others → chunks.length ≤ others.length) := by
  obtain ⟨subtrees, found⟩ := Chunk.exists_subtrees grove.acyclic
  obtain ⟨same, visits⟩ := Chunk.subtrees?_eq_some_iff.mp found
  have filled := grove.filled found
  have start : limit.admits (ofRun []).ids.length = true := Limit.admits_of_le (Nat.zero_le 1) room
  have grouping := @packFrom_grouping nodes limit [] subtrees grove.distinct visits filled (Or.inl start)
  obtain ⟨runs, packed, cut⟩ := pack_runs limit subtrees
  have nodesSame := Chunk.map_nodes_ofGroups nodes (.ofNodes nodes) runs.length 1 runs
  have roots : (pack limit subtrees).map RootGroup.roots = runs.map (List.map (·.1)) := by
    rw [packed, List.map_map]
    exact List.map_congr_left fun run _ => roots_ofRun run
  have made : chunksOf nodes rootIds limit =
      .ok (Chunk.ofGroups nodes (.ofNodes nodes) runs.length 1 (runs.map ofRun)) := by
    simp only [chunksOf, Limit.check_eq_ok_iff.mpr room, found, packed, List.length_map]
  refine ⟨_, (pack limit subtrees).map RootGroup.roots, made, ?_, ?_, ?_⟩
  · rw [List.nil_append, same] at grouping
    exact grouping
  · rw [nodesSame, roots, List.map_map]
    refine List.map_congr_left fun run listed => (reached_eq_runNodes ?_).symm
    exact fun entry inside => visits entry (cut.entry_mem listed inside)
  · intro trees others other
    have once := grove.nodup_runIds found trees
    rw [← same] at other
    have least := @length_packFrom_le nodes limit [] subtrees grove.distinct visits filled once others other
    have count := congrArg List.length nodesSame
    rw [List.length_map, List.length_map] at count
    have packs := congrArg List.length packed
    rw [List.length_map] at packs
    rw [count, ← packs]
    exact least

/-- A page with a root that is too large and roots that share a chunk. -/
def mixedPage : List Node :=
  [.text ⟨"a", "first"⟩, .element ⟨"b", .block, "div", .custom ⟨"div", []⟩, [], ["c", "d"]⟩,
    .text ⟨"c", "in"⟩, .text ⟨"d", "in"⟩, .text ⟨"e", "next"⟩, .text ⟨"f", "last"⟩]

theorem mixedPage_subtrees :
    Chunk.subtrees? (.ofNodes mixedPage) ["a", "b", "e", "f"] =
      some [("a", ["a"]), ("b", ["b", "c", "d"]), ("e", ["e"]), ("f", ["f"])] := by
  decide +kernel

theorem mixedPage_grove : Grove mixedPage ["a", "b", "e", "f"] :=
  .of_subtrees (by decide) (by decide) mixedPage_subtrees (by decide) (by decide)

theorem mixedPage_trees : ∀ root ∈ ["a", "b", "e", "f"], IsTree mixedPage root :=
  isTree_of_subtrees mixedPage_subtrees (by decide)

theorem mixedPage_fewest :
    Grove mixedPage ["a", "b", "e", "f"] ∧ (Limit.integer 2).admits 1 = true ∧
      (∀ root ∈ ["a", "b", "e", "f"], IsTree mixedPage root) ∧
      ∃ chunks groups, chunksOf mixedPage ["a", "b", "e", "f"] (.integer 2) = .ok chunks ∧
        Grouping mixedPage (.integer 2) ["a", "b", "e", "f"] groups ∧
        chunks.map Chunk.nodes = groups.map (reached mixedPage) ∧
        ∀ others, Grouping mixedPage (.integer 2) ["a", "b", "e", "f"] others →
          chunks.length ≤ others.length := by
  have room : (Limit.integer 2).admits 1 = true := by decide
  obtain ⟨chunks, groups, made, grouping, same, fewest⟩ := chunksOf_fewest mixedPage_grove room
  exact ⟨mixedPage_grove, room, mixedPage_trees, chunks, groups, made, grouping, same,
    fewest mixedPage_trees⟩

/-- A page on which two child ids lead to one node. -/
def sharedPage : List Node :=
  [.text ⟨"a", "first"⟩, .element ⟨"b", .block, "div", .custom ⟨"div", []⟩, [], ["c", "d"]⟩,
    .element ⟨"c", .block, "div", .custom ⟨"div", []⟩, [], ["d"]⟩, .text ⟨"d", "shared"⟩]

/-- One group holds all four nodes, but packing counts five and makes two. -/
theorem sharedPage_chunks :
    Grove sharedPage ["a", "b"] ∧ (Limit.integer 4).admits 1 = true ∧
      Grouping sharedPage (.integer 4) ["a", "b"] [["a", "b"]] ∧
      ∃ chunks, chunksOf sharedPage ["a", "b"] (.integer 4) = .ok chunks ∧
        ¬ chunks.length ≤ [["a", "b"]].length := by
  have found : Chunk.subtrees? (.ofNodes sharedPage) ["a", "b"] =
      some [("a", ["a"]), ("b", ["b", "c", "d", "d"])] := by decide +kernel
  have grove : Grove sharedPage ["a", "b"] :=
    .of_subtrees (by decide) (by decide) found (by decide) (by decide)
  have all : (reached sharedPage ["a", "b"]).length ≤ 4 := List.length_filter_le ..
  have fits : (Limit.integer 4).admits (reached sharedPage ["a", "b"]).length = true :=
    Limit.admits_of_le all (by decide)
  refine ⟨grove, by decide, ⟨rfl, by simp, by simpa using fits⟩, ?_⟩
  simp only [chunksOf, found, Limit.check_eq_ok_iff.mpr (show (Limit.integer 4).admits 1 by decide)]
  exact ⟨_, rfl, by decide⟩

end PageClip
