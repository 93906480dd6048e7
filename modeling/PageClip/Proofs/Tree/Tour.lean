import Mathlib.Data.List.Forall2
import Mathlib.Data.Set.Card
import PageClip.Proofs.Tree.Visit

/-!
# Tours of subtrees

A node that is a child in several places is met once for each route of child ids
that leads to it. `Tours` goes down with the routes, and `Tours.isTour` says what
comes of that: all routes there are, in lexicographic order. So
`subtreeIds?_preorder` can count how often an id is met.
-/

namespace PageClip.Tree

open Relation

/-- Child ids lead from an id to a node. The route holds the place of each next id among the child
ids of the node before it. -/
inductive NodeTable.Route (table : NodeTable) : String → List Nat → Node → Prop where
  | here {id : String} {node : Node} : table.find? id = some node → Route table id [] node
  | via {id child : String} {place : Nat} {route : List Nat} {node last : Node} :
      table.find? id = some node → node.children[place]? = some child →
        Route table child route last → Route table id (place :: route) last

/-- A node and the route on which it is met. -/
structure Stop where
  route : List Nat
  node : Node

namespace Stop

def id (stop : Stop) : String := stop.node.id

def under (place : Nat) (stop : Stop) : Stop := ⟨place :: stop.route, stop.node⟩

end Stop

/-- All stops below a root, in the order of their routes: a node before what is below it, and what
is below a child before what is below the next. -/
structure IsTour (table : NodeTable) (root : String) (tour : List Stop) : Prop where
  ordered : tour.Pairwise fun stop later => stop.route < later.route
  mem_iff : ∀ stop, stop ∈ tour ↔ table.Route root stop.route stop.node

/-- The stops of siblings as they are seen from the node above them. -/
def lifted (tours : List (List Stop)) : List Stop :=
  tours.zipIdx.flatMap fun (tour, place) => tour.map (Stop.under place)

/-- The tours of siblings, by recursion on child ids. -/
inductive Tours (table : NodeTable) : List String → List (List Stop) → Prop where
  | nil : Tours table [] []
  | unknown {id : String} {rest : List String} {tours : List (List Stop)} :
      table.find? id = none → Tours table rest tours → Tours table (id :: rest) ([] :: tours)
  | known {id : String} {node : Node} {rest : List String} {inner tours : List (List Stop)} :
      table.find? id = some node → Tours table node.children inner → Tours table rest tours →
        Tours table (id :: rest) ((⟨[], node⟩ :: lifted inner) :: tours)

/-! ### Routes -/

namespace NodeTable

variable {table : NodeTable} {id : String} {node last : Node} {route : List Nat}

theorem id_of_find? (present : table.find? id = some node) : node.id = id := by
  have same := List.find?_some present
  exact of_decide_eq_true same

theorem not_route_of_unknown (absent : table.find? id = none) : ¬ table.Route id route last := by
  intro leads
  cases leads with
  | here present => simp [absent] at present
  | via present => simp [absent] at present

theorem route_nil_iff (present : table.find? id = some node) :
    table.Route id [] last ↔ node = last := by
  constructor
  · intro leads
    cases leads with
    | here found => exact Option.some.inj (present.symm.trans found)
  · rintro rfl
    exact .here present

theorem route_cons_iff (present : table.find? id = some node) {place : Nat} :
    table.Route id (place :: route) last ↔
      ∃ child, node.children[place]? = some child ∧ table.Route child route last := by
  constructor
  · intro leads
    cases leads with
    | via found next rest =>
      obtain rfl := Option.some.inj (present.symm.trans found)
      exact ⟨_, next, rest⟩
  · rintro ⟨child, next, rest⟩
    exact .via present next rest

end NodeTable

/-! ### Stops of siblings -/

theorem exists_getElem? {α β : Type} {R : α → β → Prop} {xs : List α} {ys : List β}
    (h : List.Forall₂ R xs ys) {place : Nat} {x : α} (found : xs[place]? = some x) :
    ∃ y, ys[place]? = some y ∧ R x y := by
  obtain ⟨bound, rfl⟩ := List.getElem?_eq_some_iff.mp found
  have bound' : place < ys.length := h.length_eq ▸ bound
  exact ⟨ys[place], List.getElem?_eq_getElem bound', h.get bound bound'⟩

theorem mem_lifted {tours : List (List Stop)} {stop : Stop} :
    stop ∈ lifted tours ↔
      ∃ (place : Nat) (tour : List Stop) (inner : Stop),
        tours[place]? = some tour ∧ inner ∈ tour ∧ inner.under place = stop := by
  simp only [lifted, List.mem_flatMap, List.mem_map, Prod.exists, List.mem_zipIdx_iff_getElem?]
  constructor
  · rintro ⟨tour, place, listed, inner, member, eq⟩
    exact ⟨place, tour, inner, listed, member, eq⟩
  · rintro ⟨place, tour, inner, listed, member, eq⟩
    exact ⟨tour, place, listed, inner, member, eq⟩

/-- Seen from above a stop is one level deeper. -/
theorem map_lifted {α : Type} (f : Nat → Node → α) (tours : List (List Stop)) :
    (lifted tours).map (fun stop => f stop.route.length stop.node) =
      tours.flatten.map fun stop => f (stop.route.length + 1) stop.node := by
  have own : ∀ entry : List Stop × Nat,
      (entry.1.map (Stop.under entry.2)).map (fun stop => f stop.route.length stop.node) =
        entry.1.map fun stop => f (stop.route.length + 1) stop.node := by
    intro entry
    rw [List.map_map]
    rfl
  calc (lifted tours).map (fun stop => f stop.route.length stop.node)
      = tours.zipIdx.flatMap fun entry =>
          entry.1.map fun stop => f (stop.route.length + 1) stop.node := by
        rw [lifted, List.map_flatMap]
        exact List.flatMap_congr fun entry _ => own entry
    _ = (tours.zipIdx.map Prod.fst).flatMap
          (List.map fun stop => f (stop.route.length + 1) stop.node) := by
        rw [List.flatMap_map]
    _ = tours.flatten.map fun stop => f (stop.route.length + 1) stop.node := by
        rw [List.zipIdx_map_fst, List.flatMap_def, List.map_flatten]

section

variable {table : NodeTable} {children : List String} {tours : List (List Stop)}

theorem mem_lifted_iff (each : List.Forall₂ (IsTour table) children tours) {stop : Stop} :
    stop ∈ lifted tours ↔ ∃ place route child, stop.route = place :: route ∧
      children[place]? = some child ∧ table.Route child route stop.node := by
  rw [mem_lifted]
  constructor
  · rintro ⟨place, tour, inner, listed, member, rfl⟩
    obtain ⟨child, named, isTour⟩ :=
      exists_getElem? (List.Forall₂.flip (R := flip (IsTour table)) each) listed
    exact ⟨place, inner.route, child, rfl, named, (isTour.mem_iff inner).mp member⟩
  · rintro ⟨place, route, child, start, named, leads⟩
    obtain ⟨tour, listed, isTour⟩ := exists_getElem? each named
    refine ⟨place, tour, ⟨route, stop.node⟩, listed, (isTour.mem_iff _).mpr leads, ?_⟩
    rw [Stop.under, ← start]

theorem pairwise_lifted (each : List.Forall₂ (IsTour table) children tours) :
    (lifted tours).Pairwise fun stop later => stop.route < later.route := by
  rw [lifted, List.pairwise_flatMap]
  constructor
  · rintro ⟨tour, place⟩ listed
    obtain ⟨_, -, isTour⟩ := exists_getElem? (List.Forall₂.flip (R := flip (IsTour table)) each)
      (List.mem_zipIdx_iff_getElem?.mp listed)
    refine List.pairwise_map.mpr (isTour.ordered.imp ?_)
    intro stop later before
    exact List.cons_lt_cons_iff.mpr (.inr ⟨rfl, before⟩)
  · have places : tours.zipIdx.Pairwise fun entry later => entry.2 < later.2 := by
      rw [← List.pairwise_map, List.zipIdx_map_snd]
      exact List.pairwise_lt_range'
    refine places.imp ?_
    rintro ⟨tour, place⟩ ⟨tour', place'⟩ before stop member later member'
    obtain ⟨inner, -, rfl⟩ := List.mem_map.mp member
    obtain ⟨inner', -, rfl⟩ := List.mem_map.mp member'
    exact List.cons_lt_cons_iff.mpr (.inl before)

theorem isTour_of_children {id : String} {node : Node} (present : table.find? id = some node)
    (each : List.Forall₂ (IsTour table) node.children tours) :
    IsTour table id (⟨[], node⟩ :: lifted tours) where
  ordered := by
    rw [List.pairwise_cons]
    refine ⟨?_, pairwise_lifted each⟩
    intro stop member
    obtain ⟨place, route, child, start, -⟩ := (mem_lifted_iff each).mp member
    rw [start]
    exact List.nil_lt_cons place route
  mem_iff := by
    rintro ⟨route, last⟩
    rw [List.mem_cons, mem_lifted_iff each, Stop.mk.injEq]
    cases route with
    | nil => simp [NodeTable.route_nil_iff present, eq_comm]
    | cons place route => simp [NodeTable.route_cons_iff present]

end

theorem isTour_nil {table : NodeTable} {id : String} (absent : table.find? id = none) :
    IsTour table id [] where
  ordered := .nil
  mem_iff := by
    intro stop
    simp [NodeTable.not_route_of_unknown absent]

/-! ### Tours -/

section

variable {table : NodeTable} {ids visited : List String} {tours : List (List Stop)}

theorem Tours.isTour (h : Tours table ids tours) : List.Forall₂ (IsTour table) ids tours := by
  induction h with
  | nil => exact .nil
  | unknown absent _ ih => exact .cons (isTour_nil absent) ih
  | known present _ _ ihInner ihRest => exact .cons (isTour_of_children present ihInner) ihRest

theorem map_id_known {id : String} {node : Node} (present : table.find? id = some node)
    (inner tours : List (List Stop)) :
    ((⟨[], node⟩ :: lifted inner) :: tours).flatten.map Stop.id =
      id :: (inner.flatten.map Stop.id ++ tours.flatten.map Stop.id) := by
  have same : (lifted inner).map Stop.id = inner.flatten.map Stop.id :=
    map_lifted (fun _ node => node.id) inner
  rw [List.flatten_cons, List.cons_append, List.map_cons, List.map_append, same, Stop.id,
    NodeTable.id_of_find? present]

/-- A visit meets the ids of the stops. -/
theorem Tours.visits (h : Tours table ids tours) :
    Visits table ids (tours.flatten.map Stop.id) := by
  induction h with
  | nil => exact .nil
  | unknown absent _ ih => exact .unknown absent ih
  | known present _ _ ihInner ihRest =>
    rw [map_id_known present]
    exact .known present ihInner ihRest

theorem Visits.exists_tours (h : Visits table ids visited) : ∃ tours, Tours table ids tours := by
  induction h with
  | nil => exact ⟨[], .nil⟩
  | unknown absent _ ih =>
    obtain ⟨tours, rest⟩ := ih
    exact ⟨[] :: tours, .unknown absent rest⟩
  | known present _ _ ihBelow ihAfter =>
    obtain ⟨inner, children⟩ := ihBelow
    obtain ⟨tours, rest⟩ := ihAfter
    exact ⟨_, .known present children rest⟩

theorem Tours.each (h : Tours table ids tours) :
    List.Forall₂ (fun id tour => IsTour table id tour ∧
      subtreeIds? table id = some (tour.map Stop.id)) ids tours := by
  induction h with
  | nil => exact .nil
  | unknown absent _ ih =>
    have alone := (Tours.unknown absent .nil).visits
    exact .cons ⟨isTour_nil absent, subtreeIds?_eq_some_iff.mpr alone⟩ ih
  | known present inner _ _ ih =>
    have alone := (Tours.known present inner .nil).visits
    rw [List.flatten_cons, List.flatten_nil, List.append_nil] at alone
    exact .cons ⟨isTour_of_children present inner.isTour, subtreeIds?_eq_some_iff.mpr alone⟩ ih

theorem IsTour.encard_routes {root : String} {tour : List Stop} (h : IsTour table root tour)
    (id : String) :
    {route | ∃ node, table.Route root route node ∧ node.id = id}.encard =
      (tour.map Stop.id).count id := by
  have routes : {route | ∃ node, table.Route root route node ∧ node.id = id} =
      ((tour.filter fun stop => stop.id == id).map Stop.route).toFinset := by
    ext route
    rw [List.coe_toFinset, Set.mem_ofPred_eq, Set.mem_ofPred_eq, List.mem_map]
    constructor
    · rintro ⟨node, leads, same⟩
      have member := (h.mem_iff ⟨route, node⟩).mpr leads
      exact ⟨⟨route, node⟩, List.mem_filter.mpr ⟨member, beq_iff_eq.mpr same⟩, rfl⟩
    · rintro ⟨stop, kept, rfl⟩
      obtain ⟨member, same⟩ := List.mem_filter.mp kept
      exact ⟨stop.node, (h.mem_iff stop).mp member, beq_iff_eq.mp same⟩
  have distinct : ((tour.filter fun stop => stop.id == id).map Stop.route).Nodup := by
    refine List.pairwise_map.mpr ((h.ordered.filter _).imp ?_)
    intro stop later before same
    rw [same] at before
    exact List.lt_irrefl _ before
  rw [routes, Set.encard_coe_eq_coe_finsetCard, List.toFinset_card_of_nodup distinct,
    List.length_map, List.count_eq_countP, List.countP_map, List.countP_eq_length_filter]
  rfl

end

/-! ### The walk as a loop -/

/-- One turn of the walk over a stack of ids, with the ids that have been met so far. It does not
know how deep it is, and it ends only with an empty stack. -/
def NodeTable.turn? (table : NodeTable) :
    List String × List String → Option (List String × List String)
  | ([], _) => none
  | (id :: stack, met) =>
    match table.find? id with
    | none => some (stack, met)
    | some node => some (node.children ++ stack, met ++ [id])

/-- The loop goes through a visit and is left with the rest of its stack. -/
theorem Visits.turns {table : NodeTable} {ids visited : List String} (h : Visits table ids visited)
    (stack met : List String) :
    ReflTransGen (fun before after => table.turn? before = some after) (ids ++ stack, met)
      (stack, met ++ visited) := by
  induction h generalizing stack met with
  | nil =>
    rw [List.nil_append, List.append_nil]
  | @unknown id rest visited absent _ ih =>
    refine (ih stack met).head ?_
    rw [List.cons_append, NodeTable.turn?, absent]
  | @known id node rest inner after present _ _ ihBelow ihAfter =>
    have first : table.turn? (id :: rest ++ stack, met) =
        some (node.children ++ (rest ++ stack), met ++ [id]) := by
      rw [List.cons_append, NodeTable.turn?, present]
    have deep := ihBelow (rest ++ stack) (met ++ [id])
    have late := ihAfter stack (met ++ [id] ++ inner)
    have all : met ++ [id] ++ inner ++ after = met ++ id :: (inner ++ after) := by simp
    rw [all] at late
    exact (deep.trans late).head first

/-- Where no circle of child ids can be reached from the root, the walk ends with the preorder, in
which an id stands once for each route to a node of that id. -/
theorem subtreeIds?_preorder {table : NodeTable} {root : String} (acyclic : table.AcyclicFrom root) :
    ∃ ids, subtreeIds? table root = some ids ∧
      ReflTransGen (fun before after => table.turn? before = some after) ([root], []) ([], ids) ∧
      Visits table [root] ids ∧
      ∀ id, {route | ∃ node, table.Route root route node ∧ node.id = id}.encard = ids.count id := by
  obtain ⟨ids, walked⟩ := exists_subtreeIds?_iff.mpr acyclic
  have visit := subtreeIds?_eq_some_iff.mp walked
  obtain ⟨tours, all⟩ := visit.exists_tours
  obtain ⟨tour, _, ⟨isTour, met⟩, -⟩ := List.forall₂_cons_left_iff.mp all.each
  obtain rfl := Option.some.inj (walked.symm.trans met)
  exact ⟨_, walked, visit.turns [] [], visit, isTour.encard_routes⟩

/-- A page on which three routes lead to one node and one to none. -/
def diamondPage : NodeTable := .ofNodes [
  .element ⟨"a", .block, "div", .custom ⟨"div", []⟩, [], ["b", "gone", "c"]⟩,
  .element ⟨"b", .block, "div", .custom ⟨"div", []⟩, [], ["d"]⟩,
  .element ⟨"c", .block, "div", .custom ⟨"div", []⟩, [], ["d", "d"]⟩, .text ⟨"d", "shared"⟩]

theorem diamondPage_subtreeIds :
    subtreeIds? diamondPage "a" = some ["a", "b", "d", "c", "d", "d"] := by
  decide +kernel

theorem diamondPage_preorder :
    diamondPage.AcyclicFrom "a" ∧ ∃ ids, subtreeIds? diamondPage "a" = some ids ∧
      ReflTransGen (fun before after => diamondPage.turn? before = some after) (["a"], [])
        ([], ids) ∧
      Visits diamondPage ["a"] ids ∧
      ∀ id, {route | ∃ node, diamondPage.Route "a" route node ∧ node.id = id}.encard =
        ids.count id := by
  have acyclic := exists_subtreeIds?_iff.mp ⟨_, diamondPage_subtreeIds⟩
  exact ⟨acyclic, subtreeIds?_preorder acyclic⟩

end PageClip.Tree
