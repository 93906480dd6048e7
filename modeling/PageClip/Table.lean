/-!
# Tables in order of first entry

A table is a list of pairs. `put` keeps the place of a key that is there and
replaces its value, so `find?_put` holds and the keys stay distinct.
-/

namespace PageClip

/-- Keys with their values, in the order in which the keys were first entered. -/
abbrev Table (α β : Type) := List (α × β)

namespace Table

variable {α β : Type} [DecidableEq α]

def find? (key : α) : Table α β → Option β
  | [] => none
  | (k, v) :: rest => if k = key then some v else find? key rest

def has (key : α) (table : Table α β) : Bool := (find? key table).isSome

/-- Sets the value at a key: in place if the key is there, at the end otherwise. -/
def put (key : α) (value : β) : Table α β → Table α β
  | [] => [(key, value)]
  | (k, v) :: rest => if k = key then (k, value) :: rest else (k, v) :: put key value rest

def putAll (pairs : List (α × β)) (table : Table α β) : Table α β :=
  pairs.foldl (fun table (key, value) => put key value table) table

/-- The table of a list of pairs, in which the last value of a key counts. -/
def ofList (pairs : List (α × β)) : Table α β := putAll pairs []

/-- The keys in order. -/
def keys (table : Table α β) : List α := table.map (·.1)

@[simp] theorem find?_nil (key : α) : find? key ([] : Table α β) = none := rfl

@[simp] theorem find?_put (key other : α) (value : β) (table : Table α β) :
    find? other (put key value table) = if key = other then some value else find? other table := by
  induction table with
  | nil => simp [put, find?]
  | cons head rest ih =>
    obtain ⟨k, v⟩ := head
    by_cases same : k = key
    · subst same
      by_cases hit : k = other <;> simp [put, find?, hit]
    · by_cases hit : k = other
      · subst hit
        simp [put, find?, same, Ne.symm same]
      · simp [put, find?, same, hit, ih]

theorem find?_putAll [BEq α] [LawfulBEq α] (key : α) (pairs : List (α × β)) (table : Table α β) :
    find? key (putAll pairs table) = (pairs.reverse.lookup key).or (find? key table) := by
  induction pairs generalizing table with
  | nil => rfl
  | cons pair pairs ih =>
    obtain ⟨k, v⟩ := pair
    have entered : putAll ((k, v) :: pairs) table = putAll pairs (put k v table) := rfl
    rw [entered, ih, find?_put, List.reverse_cons, List.lookup_append, Option.or_assoc]
    by_cases hit : k = key
    · subst hit
      simp
    · have miss : (key == k) = false := by simpa using Ne.symm hit
      simp [List.lookup_cons, hit, miss]

/-- The value at a key is the one of the last pair with that key. -/
theorem find?_ofList [BEq α] [LawfulBEq α] (key : α) (pairs : List (α × β)) :
    find? key (ofList pairs) = pairs.reverse.lookup key := by
  rw [ofList, find?_putAll, find?_nil, Option.or_none]

theorem find?_isSome_iff {key : α} {table : Table α β} :
    (find? key table).isSome ↔ key ∈ keys table := by
  induction table with
  | nil => simp [keys]
  | cons head rest ih =>
    obtain ⟨k, v⟩ := head
    by_cases hit : k = key
    · simp [find?, keys, hit]
    · simp only [find?, if_neg hit, ih, keys, List.map_cons, List.mem_cons]
      exact ⟨Or.inr, fun h => h.resolve_left (Ne.symm hit)⟩

theorem mem_of_find? {key : α} {value : β} {table : Table α β} (h : find? key table = some value) :
    (key, value) ∈ table := by
  induction table with
  | nil => simp at h
  | cons head rest ih =>
    obtain ⟨k, v⟩ := head
    by_cases hit : k = key
    · rw [find?, if_pos hit] at h
      simp [hit, Option.some.inj h]
    · rw [find?, if_neg hit] at h
      exact List.mem_cons_of_mem _ (ih h)

theorem keys_put (key : α) (value : β) (table : Table α β) :
    keys (put key value table) =
      if key ∈ keys table then keys table else keys table ++ [key] := by
  induction table with
  | nil => simp [put, keys]
  | cons head rest ih =>
    obtain ⟨k, v⟩ := head
    simp only [keys] at ih
    by_cases same : k = key
    · simp [put, keys, same]
    · by_cases member : key ∈ rest.map (·.1)
      · simp [put, keys, same, ih, member]
      · simp [put, keys, same, ih, member, Ne.symm same]

theorem nodup_keys_put {key : α} {value : β} {table : Table α β} (h : (keys table).Nodup) :
    (keys (put key value table)).Nodup := by
  rw [keys_put]
  split
  · exact h
  · next absent =>
    refine List.nodup_append.mpr ⟨h, by simp, fun a member b single => ?_⟩
    rintro rfl
    exact absent (List.mem_singleton.mp single ▸ member)

end Table

end PageClip
