import Mathlib.Data.List.Forall2
import Mathlib.Data.List.Infix
import PageClip.Proofs.Tree.Place

/-!
# Pasteable places

Two elements of a document can be equal, so an element is known by its path from
the top. `contentRoots_selects` says at which paths the roots are: at those whose
surroundings make the element pasteable, each once and in document order.
-/

namespace PageClip.Tree

open Markup

/-- The positions among its siblings of an element and of the elements around it, outermost first. -/
abbrev Path := List Nat

def elementAt? (items : List Item) (index : Nat) : Option Element :=
  match items[index]? with
  | some (.element name attributes children) => some ⟨name, attributes, children⟩
  | _ => none

/-- The place that a path leads to from items with the elements `around` around them. -/
def placeAt? (around : List Element) (items : List Item) : Path → Option Place
  | [] => none
  | [index] => (elementAt? items index).map fun element => ⟨around, element⟩
  | index :: next :: path =>
    (elementAt? items index).bind fun element =>
      placeAt? (element :: around) element.children (next :: path)

/-- Nothing is around but the shell of a document, its body apart. -/
def InShell (around : List Element) : Prop :=
  ∀ element ∈ around, lowercase element.name ∈ shellTags ∧ lowercase element.name ≠ "body"

/-- An element in the shell that is not part of it, or one directly inside the body that is neither
a script nor a style sheet. -/
def Place.IsPasteable (place : Place) : Prop :=
  place.tag ∉ shellTags ∧ InShell place.around ∨
    place.tag ≠ "script" ∧ place.tag ≠ "style" ∧
      ∃ body outer, place.around = body :: outer ∧ lowercase body.name = "body" ∧ InShell outer

/-- Elements of a document with their paths: those at its pasteable places, each once, in document
order, and none inside another. -/
structure Selects (document : Document) (paths : List Path) (elements : List Element) : Prop where
  leads : List.Forall₂ (fun path element => ∃ around,
    placeAt? [] document path = some ⟨around, element⟩) paths elements
  ordered : paths.Pairwise (· < ·)
  pasteable : ∀ path, path ∈ paths ↔
    ∃ place, placeAt? [] document path = some place ∧ place.IsPasteable
  apart : ∀ path ∈ paths, ∀ other ∈ paths, path <+: other → path = other

/-! ### Zones and surroundings -/

namespace Zone

variable {zone : Zone} {tag : String}

theorem enter_eq_shell_iff :
    zone.enter tag = .shell ↔ (tag ∈ shellTags ∧ tag ≠ "body") ∧ zone = .shell := by
  cases zone <;> simp only [enter] <;> grind

theorem enter_eq_body_iff : zone.enter tag = .body ↔ tag = "body" ∧ zone = .shell := by
  cases zone <;> simp only [enter] <;> grind

theorem enter_eq_page_iff :
    zone.enter tag = .page ↔ zone = .page ∨ tag ∉ shellTags ∧ zone = .shell ∨
      tag ≠ "script" ∧ tag ≠ "style" ∧ zone = .body := by
  have body : "body" ∈ shellTags := by decide
  cases zone <;> simp only [enter] <;> grind

end Zone

theorem zoneInside_eq_shell_iff {around : List Element} :
    zoneInside around = .shell ↔ InShell around := by
  induction around with
  | nil => simp [zoneInside, InShell]
  | cons element around ih =>
    rw [zoneInside, Zone.enter_eq_shell_iff, ih, InShell, InShell, List.forall_mem_cons]

theorem zoneInside_eq_body_iff {around : List Element} :
    zoneInside around = .body ↔
      ∃ body outer, around = body :: outer ∧ lowercase body.name = "body" ∧ InShell outer := by
  cases around with
  | nil => simp [zoneInside]
  | cons element around =>
    rw [zoneInside, Zone.enter_eq_body_iff, zoneInside_eq_shell_iff]
    constructor
    · rintro ⟨body, shell⟩
      exact ⟨element, around, rfl, body, shell⟩
    · rintro ⟨body, outer, eq, named, shell⟩
      obtain ⟨rfl, rfl⟩ := List.cons.inj eq
      exact ⟨named, shell⟩

theorem zoneInside_append_of_page {around : List Element} (inside : zoneInside around = .page)
    (inner : List Element) : zoneInside (inner ++ around) = .page := by
  induction inner with
  | nil => exact inside
  | cons element inner ih =>
    rw [List.cons_append, zoneInside, ih, Zone.enter]

theorem Place.isRoot_iff {place : Place} : place.isRoot ↔ place.IsPasteable := by
  rw [isRoot, isCompiled, zoneInside, Bool.and_eq_true, decide_eq_true_eq, decide_eq_true_eq,
    Zone.enter_eq_page_iff, IsPasteable, ← zoneInside_eq_shell_iff, ← zoneInside_eq_body_iff, tag]
  constructor
  · rintro ⟨page | root, outside⟩
    · exact absurd page outside
    · exact root
  · intro root
    refine ⟨.inr root, fun page => ?_⟩
    rcases root with ⟨-, shell⟩ | ⟨-, -, body⟩
    · exact absurd (page.symm.trans shell) (by decide)
    · exact absurd (page.symm.trans body) (by decide)

/-- Nothing inside a root is a root. -/
theorem Place.not_isRoot_of_around {place outer : Place} (root : outer.isRoot)
    (inside : outer.element :: outer.around <:+ place.around) : place.isRoot = false := by
  obtain ⟨compiled, -⟩ := (Bool.and_eq_true _ _).mp root
  have page : zoneInside (outer.element :: outer.around) = .page := of_decide_eq_true compiled
  obtain ⟨inner, eq⟩ := inside
  have covered := zoneInside_append_of_page page inner
  rw [eq] at covered
  simp [isRoot, covered]

/-! ### Paths -/

section

variable {around : List Element} {item : Item} {rest : List Item} {index : Nat} {path : Path}

theorem placeAt?_nil : placeAt? around [] path = none := by
  cases path with
  | nil => rfl
  | cons index path => cases path <;> rfl

theorem placeAt?_succ :
    placeAt? around (item :: rest) ((index + 1) :: path) = placeAt? around rest (index :: path) := by
  cases path <;> simp [placeAt?, elementAt?]

theorem placeAt?_text {kind : TextKind} {content : Text} :
    placeAt? around (.text kind content :: rest) (0 :: path) = none := by
  cases path <;> simp [placeAt?, elementAt?]

theorem placeAt?_here {name : String} {attributes : List (String × String)} {children : List Item} :
    placeAt? around (.element name attributes children :: rest) [0] =
      some ⟨around, name, attributes, children⟩ := rfl

theorem placeAt?_below {name : String} {attributes : List (String × String)} {children : List Item} :
    placeAt? around (.element name attributes children :: rest) (0 :: index :: path) =
      placeAt? (⟨name, attributes, children⟩ :: around) children (index :: path) := rfl

theorem placeAt?_append {items : List Item} {place : Place}
    (found : placeAt? around items path = some place) (next : Nat) (more : Path) :
    placeAt? around items (path ++ next :: more) =
      placeAt? (place.element :: place.around) place.element.children (next :: more) := by
  fun_induction placeAt? around items path with
  | case1 => cases found
  | case2 around items index =>
    obtain ⟨element, here, rfl⟩ := Option.map_eq_some_iff.mp found
    rw [List.singleton_append, placeAt?, here, Option.bind_some]
  | case3 around items index second path ih =>
    obtain ⟨element, here, later⟩ := Option.bind_eq_some_iff.mp found
    rw [List.cons_append, List.cons_append, placeAt?, here, Option.bind_some]
    exact ih element later

theorem around_suffix {items : List Item} {place : Place}
    (found : placeAt? around items path = some place) : around <:+ place.around := by
  fun_induction placeAt? around items path with
  | case1 => cases found
  | case2 around items index =>
    obtain ⟨element, -, rfl⟩ := Option.map_eq_some_iff.mp found
    exact List.suffix_rfl
  | case3 around items index second path ih =>
    obtain ⟨element, -, later⟩ := Option.bind_eq_some_iff.mp found
    exact (List.suffix_cons element around).trans (ih element later)

end

/-- A place with the path to it. -/
structure Spot where
  path : Path
  place : Place

namespace Spot

/-- The spot as seen from the element that its path starts at. -/
def below (spot : Spot) : Spot := ⟨0 :: spot.path, spot.place⟩

/-- The spot with one more item in front of those that its path starts at. -/
def next (spot : Spot) : Spot := ⟨spot.path.modifyHead (· + 1), spot.place⟩

variable {spots : List Spot} {path : Path} {place : Place} {index : Nat}

theorem mem_map_below_iff :
    ⟨path, place⟩ ∈ spots.map below ↔ ∃ rest, path = 0 :: rest ∧ ⟨rest, place⟩ ∈ spots := by
  rw [List.mem_map]
  constructor
  · rintro ⟨spot, member, eq⟩
    obtain ⟨rfl, rfl⟩ := Spot.mk.inj eq
    exact ⟨spot.path, rfl, member⟩
  · rintro ⟨rest, rfl, member⟩
    exact ⟨⟨rest, place⟩, member, rfl⟩

theorem mem_map_next_iff :
    ⟨path, place⟩ ∈ spots.map next ↔
      ∃ before, path = before.modifyHead (· + 1) ∧ ⟨before, place⟩ ∈ spots := by
  rw [List.mem_map]
  constructor
  · rintro ⟨spot, member, eq⟩
    obtain ⟨rfl, rfl⟩ := Spot.mk.inj eq
    exact ⟨spot.path, rfl, member⟩
  · rintro ⟨before, rfl, member⟩
    exact ⟨⟨before, place⟩, member, rfl⟩

theorem succ_mem_map_next_iff :
    ⟨(index + 1) :: path, place⟩ ∈ spots.map next ↔ ⟨index :: path, place⟩ ∈ spots := by
  rw [mem_map_next_iff]
  constructor
  · rintro ⟨before, eq, member⟩
    cases before with
    | nil => cases eq
    | cons first rest =>
      rw [List.modifyHead_cons, List.cons.injEq, Nat.succ_inj] at eq
      obtain ⟨rfl, rfl⟩ := eq
      exact member
  · exact fun member => ⟨index :: path, rfl, member⟩

theorem zero_not_mem_map_next : ⟨0 :: path, place⟩ ∉ spots.map next := by
  rw [mem_map_next_iff]
  rintro ⟨before, eq, -⟩
  cases before <;> cases eq

theorem nil_mem_map_next_iff : ⟨[], place⟩ ∈ spots.map next ↔ ⟨[], place⟩ ∈ spots := by
  rw [mem_map_next_iff]
  constructor
  · rintro ⟨before, eq, member⟩
    cases before with
    | nil => exact member
    | cons => cases eq
  · exact fun member => ⟨[], rfl, member⟩

end Spot

mutual

def spotsOf (around : List Element) : Item → List Spot
  | .text .. => []
  | .element name attributes children =>
    ⟨[0], around, name, attributes, children⟩ ::
      (spotsIn (⟨name, attributes, children⟩ :: around) children).map Spot.below

/-- The places among and inside items with their paths, in the order in which the elements start. -/
def spotsIn (around : List Element) : List Item → List Spot
  | [] => []
  | item :: rest => spotsOf around item ++ (spotsIn around rest).map Spot.next

end

variable {around : List Element} {items : List Item}

theorem spotsIn_nil : spotsIn around [] = [] := by rw [spotsIn]

theorem spotsIn_text (kind : TextKind) (content : Text) (rest : List Item) :
    spotsIn around (.text kind content :: rest) = (spotsIn around rest).map Spot.next := by
  rw [spotsIn, spotsOf, List.nil_append]

theorem spotsIn_element (name : String) (attributes : List (String × String))
    (children rest : List Item) :
    spotsIn around (.element name attributes children :: rest) =
      ⟨[0], around, name, attributes, children⟩ ::
        ((spotsIn (⟨name, attributes, children⟩ :: around) children).map Spot.below ++
          (spotsIn around rest).map Spot.next) := by
  rw [spotsIn, spotsOf, List.cons_append]

theorem map_place_spotsIn (around : List Element) (items : List Item) :
    (spotsIn around items).map Spot.place = placesIn around items := by
  induction items using items_induction generalizing around with
  | nil => rw [spotsIn_nil, placesIn_nil, List.map_nil]
  | text kind content rest ih =>
    rw [spotsIn_text, placesIn_text, List.map_map, ← ih]
    rfl
  | element name attributes children rest ihChildren ihRest =>
    rw [spotsIn_element, placesIn_element, List.map_cons, List.map_append, List.map_map,
      List.map_map, ← ihChildren, ← ihRest]
    rfl

theorem mem_spotsIn_iff {path : Path} {place : Place} :
    ⟨path, place⟩ ∈ spotsIn around items ↔ placeAt? around items path = some place := by
  induction items using items_induction generalizing around path with
  | nil => simp [spotsIn_nil, placeAt?_nil]
  | text kind content rest ih =>
    rw [spotsIn_text]
    match path with
    | [] => rw [Spot.nil_mem_map_next_iff, ih, placeAt?, placeAt?]
    | 0 :: path => simp [placeAt?_text, Spot.zero_not_mem_map_next]
    | (index + 1) :: path => rw [Spot.succ_mem_map_next_iff, ih, placeAt?_succ]
  | element name attributes children rest ihChildren ihRest =>
    rw [spotsIn_element, List.mem_cons, List.mem_append, Spot.mem_map_below_iff]
    match path with
    | [] => simp [Spot.nil_mem_map_next_iff, ihRest, placeAt?]
    | [0] =>
      rw [placeAt?_here]
      simp [Spot.zero_not_mem_map_next, ihChildren, placeAt?, eq_comm]
    | 0 :: index :: path => simp [Spot.zero_not_mem_map_next, ihChildren, placeAt?_below]
    | (index + 1) :: path => simp [Spot.succ_mem_map_next_iff, ihRest, placeAt?_succ]

theorem path_ne_nil_of_mem {spot : Spot} (member : spot ∈ spotsIn around items) :
    spot.path ≠ [] := by
  intro empty
  have found := mem_spotsIn_iff.mp member
  rw [empty] at found
  cases found

theorem modifyHead_lt_modifyHead {path other : Path} (before : path < other) :
    path.modifyHead (· + 1) < other.modifyHead (· + 1) := by
  cases other with
  | nil => exact absurd before (List.not_lt_nil path)
  | cons second more =>
    cases path with
    | nil => exact List.nil_lt_cons _ _
    | cons first rest =>
      rw [List.cons_lt_cons_iff] at before
      rw [List.modifyHead_cons, List.modifyHead_cons, List.cons_lt_cons_iff]
      rcases before with less | ⟨rfl, later⟩
      · exact .inl (Nat.succ_lt_succ less)
      · exact .inr ⟨rfl, later⟩

theorem lt_path_next {spot : Spot} (solid : spot.path ≠ []) (path : Path) :
    0 :: path < spot.next.path := by
  obtain ⟨first, rest, eq⟩ := List.exists_cons_of_ne_nil solid
  rw [Spot.next, eq, List.modifyHead_cons, List.cons_lt_cons_iff]
  exact .inl (Nat.succ_pos first)

theorem pairwise_path_spotsIn (around : List Element) (items : List Item) :
    (spotsIn around items).Pairwise fun spot later => spot.path < later.path := by
  induction items using items_induction generalizing around with
  | nil =>
    rw [spotsIn_nil]
    exact .nil
  | text kind content rest ih =>
    rw [spotsIn_text, List.pairwise_map]
    exact (ih around).imp modifyHead_lt_modifyHead
  | element name attributes children rest ihChildren ihRest =>
    have own : ((spotsIn (⟨name, attributes, children⟩ :: around) children).map Spot.below).Pairwise
        fun spot later => spot.path < later.path := by
      rw [List.pairwise_map]
      exact (ihChildren _).imp fun before => List.cons_lt_cons_iff.mpr (.inr ⟨rfl, before⟩)
    have behind : ((spotsIn around rest).map Spot.next).Pairwise
        fun spot later => spot.path < later.path := by
      rw [List.pairwise_map]
      exact (ihRest around).imp modifyHead_lt_modifyHead
    rw [spotsIn_element, List.pairwise_cons, List.pairwise_append]
    refine ⟨List.forall_mem_append.mpr ⟨?_, ?_⟩, own, behind, ?_⟩
    · rw [List.forall_mem_map]
      intro spot member
      obtain ⟨first, more, eq⟩ := List.exists_cons_of_ne_nil (path_ne_nil_of_mem member)
      rw [Spot.below, eq, List.cons_lt_cons_iff]
      exact .inr ⟨rfl, List.nil_lt_cons first more⟩
    · rw [List.forall_mem_map]
      exact fun spot member => lt_path_next (path_ne_nil_of_mem member) []
    · rw [List.forall_mem_map]
      intro spot _
      rw [List.forall_mem_map]
      exact fun later member => lt_path_next (path_ne_nil_of_mem member) spot.path

/-! ### Roots -/

def rootSpots (document : Document) : List Spot :=
  (spotsIn [] document).filter fun spot => spot.place.isRoot

theorem map_element_rootSpots (document : Document) :
    (rootSpots document).map (fun spot => spot.place.element) = contentRoots document := by
  rw [contentRoots_eq, ← map_place_spotsIn, List.filter_map, List.map_map]
  rfl

theorem mem_rootSpots_iff {document : Document} {path : Path} {place : Place} :
    ⟨path, place⟩ ∈ rootSpots document ↔
      placeAt? [] document path = some place ∧ place.IsPasteable := by
  rw [rootSpots, List.mem_filter, mem_spotsIn_iff, Place.isRoot_iff]

/-- No place inside a pasteable one is pasteable. -/
theorem not_isPasteable_of_append {document : Document} {path more : Path} {place inner : Place}
    {next : Nat} (found : placeAt? [] document path = some place) (root : place.IsPasteable)
    (below : placeAt? [] document (path ++ next :: more) = some inner) : ¬ inner.IsPasteable := by
  rw [placeAt?_append found] at below
  rw [← Place.isRoot_iff, Place.not_isRoot_of_around (Place.isRoot_iff.mpr root) (around_suffix below)]
  exact Bool.false_ne_true

/-- The roots of a document are the elements at its pasteable places. -/
theorem contentRoots_selects (document : Document) :
    ∃ paths, Selects document paths (contentRoots document) := by
  refine ⟨(rootSpots document).map Spot.path, ?leads, ?ordered, ?pasteable, ?apart⟩
  case leads =>
    rw [← map_element_rootSpots, List.forall₂_map_left_iff, List.forall₂_map_right_iff,
      List.forall₂_same]
    intro spot member
    exact ⟨spot.place.around, (mem_rootSpots_iff.mp member).1⟩
  case ordered =>
    rw [List.pairwise_map]
    exact (pairwise_path_spotsIn [] document).filter _
  case pasteable =>
    intro path
    rw [List.mem_map]
    constructor
    · rintro ⟨spot, member, rfl⟩
      exact ⟨spot.place, mem_rootSpots_iff.mp member⟩
    · rintro ⟨place, found⟩
      exact ⟨⟨path, place⟩, mem_rootSpots_iff.mpr found, rfl⟩
  case apart =>
    intro path member other listed reached
    obtain ⟨spot, here, rfl⟩ := List.mem_map.mp member
    obtain ⟨inner, there, rfl⟩ := List.mem_map.mp listed
    obtain ⟨found, root⟩ := mem_rootSpots_iff.mp here
    obtain ⟨foundInner, rootInner⟩ := mem_rootSpots_iff.mp there
    obtain ⟨more, eq⟩ := reached
    cases more with
    | nil => rw [← eq, List.append_nil]
    | cons next more =>
      rw [← eq] at foundInner
      exact absurd rootInner (not_isPasteable_of_append found root foundInner)

/-- A paragraph in the head is a root; of a body it is what stands directly in it, a title and
another body too, but no script. -/
example : (contentRoots [.element "head" [] [.element "p" [] []],
    .element "BODY" [] [.element "script" [] [], .element "title" [] [.element "b" [] []],
      .element "body" [] [.element "i" [] []]]]).map Element.name = ["p", "title", "body"] := by
  decide +kernel

end PageClip.Tree
