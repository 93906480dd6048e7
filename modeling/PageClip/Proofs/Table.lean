import Mathlib.Data.List.Induction
import PageClip.Table

/-!
# Tables put into tables

A key that is there keeps its place, so a list of pairs can be made a table of
its own before it is put into another (`putAll_ofList`).
-/

namespace PageClip.Table

variable {α β : Type} [DecidableEq α]

theorem put_put (key : α) (old value : β) (table : Table α β) :
    put key value (put key old table) = put key value table := by
  induction table with
  | nil => simp [put]
  | cons head rest ih =>
    obtain ⟨k, v⟩ := head
    by_cases same : k = key
    · simp [put, same]
    · simp [put, same, ih]

/-- Setting the value of a key that is there does not move any key. -/
theorem put_comm {key other : α} (different : key ≠ other) {table : Table α β}
    (member : key ∈ keys table) (value new : β) :
    put key value (put other new table) = put other new (put key value table) := by
  induction table with
  | nil => simp [keys] at member
  | cons head rest ih =>
    obtain ⟨k, v⟩ := head
    by_cases same : k = key
    · subst same
      simp [put, different]
    · have later : key ∈ keys rest := (List.mem_cons.mp member).resolve_left (Ne.symm same)
      by_cases hit : k = other
      · subst hit
        simp [put, same]
      · simp [put, same, hit, ih later]

theorem find?_mapValue {γ : Type} (key : α) (f : β → γ) (table : Table α β) :
    find? key (table.map fun (k, value) => (k, f value)) = (find? key table).map f := by
  induction table with
  | nil => rfl
  | cons entry rest ih => by_cases hit : entry.1 = key <;> simp [find?, hit, ih]

theorem find?_filterMap (key : α) (keys : List α) (value? : α → Option β) :
    find? key (keys.filterMap fun k => (value? k).map (k, ·)) =
      if key ∈ keys then value? key else none := by
  induction keys with
  | nil => rfl
  | cons k keys ih =>
    by_cases hit : k = key
    · subst hit
      cases entered : value? k <;> simp [entered, ih, find?]
    · cases entered : value? k <;> simp [entered, ih, find?, hit, Ne.symm hit]

omit [DecidableEq α] in
theorem keys_filterMap_sublist (keys : List α) (value? : α → Option β) :
    (Table.keys (keys.filterMap fun k => (value? k).map (k, ·))).Sublist keys := by
  induction keys with
  | nil => exact .slnil
  | cons k keys ih =>
    cases entered : value? k with
    | none => simpa [entered] using ih.cons k
    | some value => simpa [entered, Table.keys] using ih.cons_cons k

theorem putAll_cons (key : α) (value : β) (pairs : List (α × β)) (table : Table α β) :
    putAll ((key, value) :: pairs) table = putAll pairs (put key value table) := rfl

theorem putAll_append (pairs more : List (α × β)) (table : Table α β) :
    putAll (pairs ++ more) table = putAll more (putAll pairs table) :=
  List.foldl_append

theorem mem_keys_put {key : α} (value : β) (table : Table α β) : key ∈ keys (put key value table) := by
  rw [← find?_isSome_iff, find?_put, if_pos rfl]
  rfl

theorem put_putAll {key : α} {pairs : List (α × β)} (absent : key ∉ keys pairs)
    {table : Table α β} (member : key ∈ keys table) (value : β) :
    put key value (putAll pairs table) = putAll pairs (put key value table) := by
  induction pairs generalizing table with
  | nil => rfl
  | cons pair pairs ih =>
    obtain ⟨k, v⟩ := pair
    have different : key ≠ k := fun same => absent (List.mem_cons.mpr (.inl same))
    have later : key ∉ keys pairs := fun found => absent (List.mem_cons_of_mem k found)
    have still : key ∈ keys (put k v table) := by
      rw [keys_put]
      split
      · exact member
      · exact List.mem_append_left [k] member
    rw [putAll_cons, putAll_cons, ih later still, put_comm different member]

theorem putAll_put {source : Table α β} (distinct : (keys source).Nodup) (key : α) (value : β)
    (table : Table α β) :
    putAll (put key value source) table = put key value (putAll source table) := by
  induction source generalizing table with
  | nil => rfl
  | cons head rest ih =>
    obtain ⟨k, v⟩ := head
    obtain ⟨absent, later⟩ := List.nodup_cons.mp distinct
    by_cases same : k = key
    · subst same
      rw [put, if_pos rfl, putAll_cons, putAll_cons, put_putAll absent (mem_keys_put v table),
        put_put]
    · rw [put, if_neg same, putAll_cons, putAll_cons, ih later]

theorem ofList_concat (pairs : List (α × β)) (key : α) (value : β) :
    ofList (pairs ++ [(key, value)]) = put key value (ofList pairs) :=
  putAll_append pairs [(key, value)] []

theorem nodup_keys_ofList (pairs : List (α × β)) : (keys (ofList pairs)).Nodup := by
  induction pairs using List.reverseRecOn with
  | nil => exact List.nodup_nil
  | append_singleton pairs pair ih =>
    rw [ofList_concat]
    exact nodup_keys_put ih

theorem subset_put {key : α} {value : β} {table : Table α β} {pair : α × β}
    (member : pair ∈ put key value table) : pair = (key, value) ∨ pair ∈ table := by
  induction table with
  | nil => exact .inl (List.mem_singleton.mp member)
  | cons head rest ih =>
    obtain ⟨k, v⟩ := head
    by_cases same : k = key
    · rw [put, if_pos same] at member
      rcases List.mem_cons.mp member with here | later
      · exact .inl (same ▸ here)
      · exact .inr (List.mem_cons_of_mem _ later)
    · rw [put, if_neg same] at member
      rcases List.mem_cons.mp member with here | later
      · exact .inr (here ▸ List.mem_cons_self)
      · exact (ih later).imp_right (List.mem_cons_of_mem _)

theorem subset_ofList (pairs : List (α × β)) : ofList pairs ⊆ pairs := by
  induction pairs using List.reverseRecOn with
  | nil => exact List.nil_subset []
  | append_singleton pairs pair ih =>
    intro entry member
    rw [ofList_concat] at member
    rcases subset_put member with rfl | earlier
    · exact List.mem_append_right _ List.mem_cons_self
    · exact List.mem_append_left _ (ih earlier)

theorem find?_ofList_eq_some_iff {key : α} {value : β} {pairs : List (α × β)} :
    find? key (ofList pairs) = some value ↔
      ∃ before after, pairs = before ++ (key, value) :: after ∧ key ∉ keys after := by
  rw [find?_ofList, List.lookup_eq_some_iff]
  constructor
  · rintro ⟨after, before, eq, absent⟩
    refine ⟨before.reverse, after.reverse, by simpa using congrArg List.reverse eq, fun member => ?_⟩
    obtain ⟨pair, listed, rfl⟩ := List.mem_map.mp member
    simpa using absent pair (List.mem_reverse.mp listed)
  · rintro ⟨before, after, rfl, absent⟩
    refine ⟨after.reverse, before.reverse, by simp, fun pair listed => ?_⟩
    have other : key ≠ pair.1 := fun same =>
      absent (List.mem_map.mpr ⟨pair, List.mem_reverse.mp listed, same.symm⟩)
    simpa using other

theorem put_of_not_mem {key : α} {table : Table α β} (absent : key ∉ keys table) (value : β) :
    put key value table = table ++ [(key, value)] := by
  induction table with
  | nil => rfl
  | cons head rest ih =>
    obtain ⟨k, v⟩ := head
    have different : k ≠ key := fun same => absent (List.mem_cons.mpr (.inl same.symm))
    have later : key ∉ keys rest := fun found => absent (List.mem_cons_of_mem k found)
    rw [put, if_neg different, ih later, List.cons_append]

/-- Pairs with distinct keys make up a table as they are. -/
theorem ofList_of_nodup {pairs : List (α × β)} (distinct : (keys pairs).Nodup) :
    ofList pairs = pairs := by
  induction pairs using List.reverseRecOn with
  | nil => rfl
  | append_singleton pairs pair ih =>
    rw [keys, List.map_append, List.map_singleton, List.nodup_append] at distinct
    obtain ⟨front, -, apart⟩ := distinct
    have absent : pair.1 ∉ keys pairs := fun member =>
      apart pair.1 member pair.1 List.mem_cons_self rfl
    rw [ofList_concat, ih front, put_of_not_mem absent]

/-- What a list of pairs does to a table hangs only on the table that the list makes by itself. -/
theorem putAll_ofList (pairs : List (α × β)) (table : Table α β) :
    putAll (ofList pairs) table = putAll pairs table := by
  induction pairs using List.reverseRecOn with
  | nil => rfl
  | append_singleton pairs pair ih =>
    rw [ofList_concat, putAll_put (nodup_keys_ofList pairs), ih, putAll_append]
    rfl

end PageClip.Table
