import Mathlib.Data.List.Nodup
import Mathlib.Data.List.Perm.Subperm
import Mathlib.Logic.Relation
import PageClip.Tree.Subtree

/-!
# Visits of subtrees

`Visits` is the depth-first visit by recursion on the child ids, without a stack.
`subtreeIds?_eq_some_iff` says that the walk finds this visit and nothing else,
and `exists_visits` that there is one unless child ids lead in a circle.
-/

namespace PageClip.Tree

open Relation

/-- The id of a node stands among the child ids of another. -/
def NodeTable.Child (table : NodeTable) (parent child : String) : Prop :=
  ∃ node, table.find? parent = some node ∧ child ∈ node.children

/-- No chain of child ids that starts at `id` comes back to where it has been. -/
def NodeTable.AcyclicFrom (table : NodeTable) (id : String) : Prop :=
  ∀ other, ReflTransGen table.Child id other → ¬ TransGen table.Child other other

/-- The ids met from a list of ids: nothing for one that is unknown, and for one that is known
itself and then what is met from its children. -/
inductive Visits (table : NodeTable) : List String → List String → Prop where
  | nil : Visits table [] []
  | unknown {id : String} {rest ids : List String} :
      table.find? id = none → Visits table rest ids → Visits table (id :: rest) ids
  | known {id : String} {node : Node} {rest below after : List String} :
      table.find? id = some node → Visits table node.children below → Visits table rest after →
        Visits table (id :: rest) (id :: (below ++ after))

namespace NodeTable

theorem find?_ofNodes {nodes : List Node} {id : String} {node : Node}
    (h : (ofNodes nodes).find? id = some node) : node ∈ nodes ∧ node.id = id := by
  have same := List.find?_some h
  exact ⟨List.mem_reverse.mp (List.mem_of_find?_eq_some h), of_decide_eq_true same⟩

theorem isSome_find?_ofNodes {nodes : List Node} {id : String} :
    ((ofNodes nodes).find? id).isSome ↔ ∃ node ∈ nodes, node.id = id := by
  simp [ofNodes, find?]

theorem isSome_find?_of_child {nodes : List Node} {parent child : String}
    (h : (ofNodes nodes).Child parent child) : ((ofNodes nodes).find? parent).isSome := by
  obtain ⟨node, present, -⟩ := h
  simp [present]

theorem mem_children_of_child {nodes : List Node} {parent child : String}
    (h : (ofNodes nodes).Child parent child) :
    ∃ node ∈ nodes, node.id = parent ∧ child ∈ node.children := by
  obtain ⟨node, present, member⟩ := h
  obtain ⟨listed, same⟩ := find?_ofNodes present
  exact ⟨node, listed, same, member⟩

theorem find?_of_mem {nodes : List Node} {node : Node} (distinct : (nodes.map Node.id).Nodup)
    (member : node ∈ nodes) : (ofNodes nodes).find? node.id = some node := by
  obtain ⟨found, present⟩ :=
    Option.isSome_iff_exists.mp (isSome_find?_ofNodes.mpr ⟨node, member, rfl⟩)
  obtain ⟨listed, same⟩ := find?_ofNodes present
  rw [present, List.inj_on_of_nodup_map distinct listed member same]

end NodeTable

namespace Visits

variable {table : NodeTable} {roots ids : List String}

theorem unique {other : List String} (h : Visits table roots ids) (h' : Visits table roots other) :
    ids = other := by
  induction h generalizing other with
  | nil => cases h'; rfl
  | unknown absent _ ih =>
    cases h' with
    | unknown _ rest => exact ih rest
    | known present => simp [absent] at present
  | known present _ _ ihBelow ihAfter =>
    cases h' with
    | unknown absent => simp [absent] at present
    | known present' below after =>
      obtain rfl := Option.some.inj (present.symm.trans present')
      rw [ihBelow below, ihAfter after]

theorem append {more after : List String} (h : Visits table roots ids)
    (h' : Visits table more after) : Visits table (roots ++ more) (ids ++ after) := by
  induction h with
  | nil => exact h'
  | unknown absent _ ih => exact .unknown absent ih
  | known present below _ _ ih =>
    rw [List.cons_append, List.cons_append, List.append_assoc]
    exact .known present below ih

/-- A visit of two lists of roots is a visit of the first and then one of the second. -/
theorem of_append {more : List String} (h : Visits table (roots ++ more) ids) :
    ∃ own after, Visits table roots own ∧ Visits table more after ∧ ids = own ++ after := by
  induction roots generalizing ids with
  | nil => exact ⟨[], ids, .nil, h, rfl⟩
  | cons root rest ih =>
    rw [List.cons_append] at h
    cases h with
    | unknown absent visit =>
      obtain ⟨own, after, visitRest, visitMore, rfl⟩ := ih visit
      exact ⟨own, after, .unknown absent visitRest, visitMore, rfl⟩
    | known present below visit =>
      obtain ⟨own, after, visitRest, visitMore, rfl⟩ := ih visit
      exact ⟨_, after, .known present below visitRest, visitMore, by simp⟩

theorem known_of_mem {id : String} (h : Visits table roots ids) (member : id ∈ ids) :
    (table.find? id).isSome := by
  induction h with
  | nil => simp at member
  | unknown _ _ ih => exact ih member
  | known present _ _ ihBelow ihAfter =>
    rcases List.mem_cons.mp member with rfl | inside
    · simp [present]
    · exact (List.mem_append.mp inside).elim ihBelow ihAfter

/-- The visit of an id that is met is part of the visit in which it is met. -/
theorem inner {id : String} (h : Visits table roots ids) (member : id ∈ ids) :
    ∃ own, Visits table [id] own ∧ own.length ≤ ids.length := by
  induction h with
  | nil => simp at member
  | unknown _ _ ih => exact ih member
  | known present below _ ihBelow ihAfter =>
    rcases List.mem_cons.mp member with rfl | inside
    · exact ⟨_, .known present below .nil, by simp⟩
    · rcases List.mem_append.mp inside with deep | late
      · obtain ⟨own, visit, short⟩ := ihBelow deep
        exact ⟨own, visit, by simp only [List.length_cons, List.length_append]; omega⟩
      · obtain ⟨own, visit, short⟩ := ihAfter late
        exact ⟨own, visit, by simp only [List.length_cons, List.length_append]; omega⟩

/-- An id that can be visited is not met again below itself: its visit would hold a visit of its
own length and one id more. -/
theorem not_mem_below {id : String} {node : Node} {below : List String}
    (present : table.find? id = some node) (h : Visits table node.children below) :
    id ∉ below := by
  intro again
  obtain ⟨own, visit, short⟩ := h.inner again
  have same := visit.unique (.known present h .nil)
  simp only [same, List.append_nil, List.length_cons] at short
  omega

theorem mem_of_reaches {root id : String} (h : Visits table roots ids) (start : root ∈ roots)
    (path : ReflTransGen table.Child root id) (present : (table.find? id).isSome) : id ∈ ids := by
  induction h generalizing root with
  | nil => simp at start
  | @unknown first rest ids absent _ ih =>
    rcases List.mem_cons.mp start with rfl | later
    · rcases path.cases_head with rfl | ⟨next, ⟨node, found, -⟩, -⟩
      · simp [absent] at present
      · simp [absent] at found
    · exact ih later path
  | @known first node rest below after found _ _ ihBelow ihAfter =>
    rcases List.mem_cons.mp start with rfl | later
    · rcases path.cases_head with rfl | ⟨next, ⟨node', found', child⟩, deeper⟩
      · exact List.mem_cons_self
      · obtain rfl := Option.some.inj (found.symm.trans found')
        exact List.mem_cons_of_mem _ (List.mem_append_left _ (ihBelow child deeper))
    · exact List.mem_cons_of_mem _ (List.mem_append_right _ (ihAfter later path))

theorem reaches_of_mem {id : String} (h : Visits table roots ids) (member : id ∈ ids) :
    ∃ root ∈ roots, ReflTransGen table.Child root id := by
  induction h with
  | nil => simp at member
  | unknown _ _ ih =>
    obtain ⟨root, start, path⟩ := ih member
    exact ⟨root, List.mem_cons_of_mem _ start, path⟩
  | @known first node rest below after found _ _ ihBelow ihAfter =>
    rcases List.mem_cons.mp member with rfl | inside
    · exact ⟨id, List.mem_cons_self, .refl⟩
    · rcases List.mem_append.mp inside with deep | late
      · obtain ⟨child, isChild, path⟩ := ihBelow deep
        exact ⟨first, List.mem_cons_self, path.head ⟨node, found, isChild⟩⟩
      · obtain ⟨root, start, path⟩ := ihAfter late
        exact ⟨root, List.mem_cons_of_mem _ start, path⟩

/-- A visit meets the known ids to which chains of child ids lead. -/
theorem mem_iff {id : String} (h : Visits table roots ids) :
    id ∈ ids ↔
      (table.find? id).isSome ∧ ∃ root ∈ roots, ReflTransGen table.Child root id := by
  constructor
  · exact fun member => ⟨h.known_of_mem member, h.reaches_of_mem member⟩
  · rintro ⟨present, root, start, path⟩
    exact h.mem_of_reaches start path present

end Visits

/-- Where a visit has met an id no chain of child ids leads back to it. -/
theorem Visits.acyclic {table : NodeTable} {roots ids : List String} {id : String}
    (h : Visits table roots ids) (member : id ∈ ids) : ¬ TransGen table.Child id id := by
  intro circle
  obtain ⟨own, visit, -⟩ := h.inner member
  obtain ⟨child, ⟨node, present, isChild⟩, back⟩ := TransGen.head'_iff.mp circle
  cases visit with
  | unknown absent => simp [absent] at present
  | known present' below _ =>
    obtain rfl := Option.some.inj (present.symm.trans present')
    exact Visits.not_mem_below present below (below.mem_of_reaches isChild back (by simp [present]))

theorem Visits.acyclicFrom {table : NodeTable} {root : String} {ids : List String}
    (h : Visits table [root] ids) : table.AcyclicFrom root := by
  intro other path circle
  obtain ⟨_, ⟨node, present, -⟩, -⟩ := TransGen.head'_iff.mp circle
  have met := h.mem_iff.mpr ⟨by simp [present], root, List.mem_cons_self, path⟩
  exact h.acyclic met circle

/-! ### Paths without repetition -/

theorem NodeTable.length_le_size {table : NodeTable} (path : List String) (distinct : path.Nodup)
    (known : ∀ id ∈ path, (table.find? id).isSome) : path.length ≤ table.size := by
  have listed : path ⊆ table.latest.map Node.id := by
    intro id member
    obtain ⟨node, found⟩ := Option.isSome_iff_exists.mp (known id member)
    have same := List.find?_some found
    exact List.mem_map.mpr ⟨node, List.mem_of_find?_eq_some found, of_decide_eq_true same⟩
  have short := (List.subperm_of_subset distinct listed).length_le
  rwa [List.length_map] at short

/-- A path that can be made longer by a known id is shorter than there are nodes. -/
theorem NodeTable.length_lt_size {table : NodeTable} {path : List String} {id : String} {node : Node}
    (distinct : path.Nodup) (known : ∀ id ∈ path, (table.find? id).isSome) (fresh : id ∉ path)
    (present : table.find? id = some node) : path.length < table.size := by
  have longer := NodeTable.length_le_size (id :: path)
    (List.nodup_cons.mpr ⟨fresh, distinct⟩)
    (List.forall_mem_cons.mpr ⟨by simp [present], known⟩)
  rwa [List.length_cons] at longer

/-- Where no chain of child ids comes back to where it has been there is a visit. The induction is
on how many ids a path to the roots leaves over; `path` holds what lies above them. -/
theorem exists_visits_above {table : NodeTable} (spare : Nat) (path roots : List String)
    (distinct : path.Nodup) (known : ∀ id ∈ path, (table.find? id).isSome)
    (room : table.size ≤ path.length + spare)
    (above : ∀ root ∈ roots, ∀ id ∈ path, TransGen table.Child id root)
    (acyclic : ∀ root ∈ roots, table.AcyclicFrom root) : ∃ ids, Visits table roots ids := by
  induction spare generalizing path roots with
  | zero =>
    -- The path holds every known id, so a known root would lie above itself.
    suffices unknown : ∀ root ∈ roots, table.find? root = none by
      clear above acyclic
      induction roots with
      | nil => exact ⟨[], .nil⟩
      | cons root rest ih =>
        obtain ⟨absent, others⟩ := List.forall_mem_cons.mp unknown
        obtain ⟨ids, visit⟩ := ih others
        exact ⟨ids, .unknown absent visit⟩
    intro root start
    cases present : table.find? root with
    | none => rfl
    | some node =>
      have fresh : root ∉ path := fun again =>
        acyclic root start root .refl (above root start root again)
      have := NodeTable.length_lt_size distinct known fresh present
      omega
  | succ spare ihSpare =>
    induction roots with
    | nil => exact ⟨[], .nil⟩
    | cons root rest ih =>
      obtain ⟨aboveRoot, aboveRest⟩ := List.forall_mem_cons.mp above
      obtain ⟨acyclicRoot, acyclicRest⟩ := List.forall_mem_cons.mp acyclic
      obtain ⟨after, visitRest⟩ := ih aboveRest acyclicRest
      cases present : table.find? root with
      | none => exact ⟨after, .unknown present visitRest⟩
      | some node =>
        have fresh : root ∉ path := fun again => acyclicRoot root .refl (aboveRoot root again)
        have step : ∀ child ∈ node.children, table.Child root child :=
          fun child member => ⟨node, present, member⟩
        obtain ⟨below, visitBelow⟩ := ihSpare (root :: path) node.children
          (List.nodup_cons.mpr ⟨fresh, distinct⟩)
          (List.forall_mem_cons.mpr ⟨by simp [present], known⟩)
          (by rw [List.length_cons]; omega)
          (fun child member => List.forall_mem_cons.mpr
            ⟨.single (step child member), fun id old => (aboveRoot id old).tail (step child member)⟩)
          (fun child member other path => acyclicRoot other (path.head (step child member)))
        exact ⟨_, .known present visitBelow visitRest⟩

theorem exists_visits {table : NodeTable} {roots : List String}
    (acyclic : ∀ root ∈ roots, table.AcyclicFrom root) : ∃ ids, Visits table roots ids :=
  exists_visits_above table.size [] roots List.nodup_nil (by simp) (by simp) (by simp) acyclic

/-! ### The walk over a stack -/

@[simp] theorem visit?_nil (table : NodeTable) : visit? table [] = some [] := by rw [visit?]

theorem visit?_unknown {table : NodeTable} {id : String} (absent : table.find? id = none)
    (depth : Nat) (stack : List (Nat × String)) :
    visit? table ((depth, id) :: stack) = visit? table stack := by
  rw [visit?]
  split
  · rfl
  · next present => simp [absent] at present

theorem visit?_known {table : NodeTable} {id : String} {node : Node}
    (present : table.find? id = some node) (depth : Nat) (stack : List (Nat × String)) :
    visit? table ((depth, id) :: stack) =
      if depth < table.size then
        (visit? table (node.children.map (fun child => (depth + 1, child)) ++ stack)).map (id :: ·)
      else none := by
  rw [visit?]
  split
  · next absent => simp [absent] at present
  · next found =>
    obtain rfl := Option.some.inj (present.symm.trans found)
    split <;> rfl

/-- Known ids that lie above a visit, each once, and that the visit does not meet again. -/
structure NodeTable.Above (table : NodeTable) (path ids : List String) : Prop where
  distinct : path.Nodup
  known : ∀ id ∈ path, (table.find? id).isSome
  apart : ∀ id ∈ path, id ∉ ids

namespace NodeTable.Above

variable {table : NodeTable} {path ids below after : List String} {id : String} {node : Node}

theorem nil : table.Above [] ids := ⟨List.nodup_nil, by simp, by simp⟩

theorem inside (above : table.Above path (id :: (below ++ after)))
    (present : table.find? id = some node) (visit : Visits table node.children below) :
    table.Above (id :: path) below where
  distinct := List.nodup_cons.mpr ⟨fun old => above.apart id old List.mem_cons_self, above.distinct⟩
  known := List.forall_mem_cons.mpr ⟨by simp [present], above.known⟩
  apart := List.forall_mem_cons.mpr ⟨Visits.not_mem_below present visit, fun other old met =>
    above.apart other old (List.mem_cons_of_mem _ (List.mem_append_left _ met))⟩

theorem behind (above : table.Above path (id :: (below ++ after))) : table.Above path after where
  distinct := above.distinct
  known := above.known
  apart := fun other old met =>
    above.apart other old (List.mem_cons_of_mem _ (List.mem_append_right _ met))

/-- So a walk that goes down such a path never is too deep. -/
theorem length_lt_size (above : table.Above path (id :: ids))
    (present : table.find? id = some node) : path.length < table.size :=
  NodeTable.length_lt_size above.distinct above.known
    (fun old => above.apart id old List.mem_cons_self) present

end NodeTable.Above

/-- The walk goes through a visit and then on with the rest of its stack. -/
theorem visit?_of_visits {table : NodeTable} {roots ids : List String}
    (h : Visits table roots ids) (path : List String) (stack : List (Nat × String))
    (above : table.Above path ids) :
    visit? table (roots.map (Prod.mk path.length) ++ stack) =
      (visit? table stack).map (ids ++ ·) := by
  induction h generalizing path stack with
  | nil => simp
  | unknown absent _ ih =>
    rw [List.map_cons, List.cons_append, visit?_unknown absent]
    exact ih path stack above
  | @known id node rest below after present visitBelow _ ihBelow ihAfter =>
    have deep := ihBelow (id :: path) (rest.map (Prod.mk path.length) ++ stack)
      (above.inside present visitBelow)
    have late := ihAfter path stack above.behind
    rw [List.length_cons] at deep
    rw [List.map_cons, List.cons_append, visit?_known present,
      if_pos (above.length_lt_size present), deep, late]
    cases visit? table stack <;> simp

theorem visits_of_visit? {table : NodeTable} {stack : List (Nat × String)} {ids : List String}
    (h : visit? table stack = some ids) : Visits table (stack.map (·.2)) ids := by
  induction stack using visit?.induct table generalizing ids with
  | case1 =>
    rw [visit?_nil] at h
    obtain rfl := Option.some.inj h
    exact .nil
  | case2 depth id stack absent ih =>
    rw [visit?_unknown absent] at h
    exact .unknown absent (ih h)
  | case3 depth id stack node present shallow ih =>
    rw [visit?_known present, if_pos shallow] at h
    obtain ⟨inside, found, rfl⟩ := Option.map_eq_some_iff.mp h
    have visit := ih found
    simp only [List.map_append, List.map_map, Function.comp_def, List.map_id'] at visit
    obtain ⟨below, after, visitBelow, visitAfter, rfl⟩ := visit.of_append
    exact .known present visitBelow visitAfter
  | case4 depth id stack node present deep =>
    rw [visit?_known present, if_neg deep] at h
    simp at h

/-- The walk from a root gives the visit of the root, and no ids where there is no visit. -/
theorem subtreeIds?_eq_some_iff {table : NodeTable} {root : String} {ids : List String} :
    subtreeIds? table root = some ids ↔ Visits table [root] ids := by
  constructor
  · exact visits_of_visit?
  · intro visit
    have walked := visit?_of_visits visit [] [] .nil
    simpa [subtreeIds?] using walked

/-- The walk from a root ends exactly where no circle of child ids can be reached. -/
theorem exists_subtreeIds?_iff {table : NodeTable} {root : String} :
    (∃ ids, subtreeIds? table root = some ids) ↔ table.AcyclicFrom root := by
  constructor
  · rintro ⟨ids, walked⟩
    exact (subtreeIds?_eq_some_iff.mp walked).acyclicFrom
  · intro acyclic
    obtain ⟨ids, visit⟩ : ∃ ids, Visits table [root] ids := exists_visits (by simpa using acyclic)
    exact ⟨ids, subtreeIds?_eq_some_iff.mpr visit⟩

end PageClip.Tree
