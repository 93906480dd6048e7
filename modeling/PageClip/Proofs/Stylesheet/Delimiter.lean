import PageClip.Stylesheet.Delimiter

/-!
# Balanced texts

The scan for a closer runs over a balanced text without stopping in it, so
behind an opener it stops right after the first balanced text.
-/

namespace PageClip.Stylesheet.Delimiter

/-- A text in which every opener has its closer and every closer its opener. -/
inductive Balanced (d : Delimiter) : Text → Prop
  | nil : Balanced d []
  | plain {c : Char} {rest : Text} :
    c ≠ d.opener → c ≠ d.closer → Balanced d rest → Balanced d (c :: rest)
  | nested {inside rest : Text} :
    Balanced d inside → Balanced d rest → Balanced d (d.opener :: inside ++ d.closer :: rest)

/-- A text without openers and closers. -/
def Free (d : Delimiter) (text : Text) : Prop := d.opener ∉ text ∧ d.closer ∉ text

instance (d : Delimiter) (text : Text) : Decidable (d.Free text) :=
  inferInstanceAs (Decidable (_ ∧ _))

variable {d : Delimiter}

theorem Free.of_cons {c : Char} {rest : Text} (free : d.Free (c :: rest)) :
    c ≠ d.opener ∧ c ≠ d.closer ∧ d.Free rest := by
  simp only [Free, List.mem_cons, not_or] at free
  obtain ⟨⟨notOpener, opener⟩, notCloser, closer⟩ := free
  exact ⟨Ne.symm notOpener, Ne.symm notCloser, opener, closer⟩

theorem Free.of_subset {text part : Text} (free : d.Free text) (subset : part ⊆ text) :
    d.Free part :=
  ⟨fun opener => free.1 (subset opener), fun closer => free.2 (subset closer)⟩

theorem Free.append {text rest : Text} (front : d.Free text) (back : d.Free rest) :
    d.Free (text ++ rest) := by
  simp only [Free, List.mem_append, not_or]
  exact ⟨⟨front.1, back.1⟩, front.2, back.2⟩

theorem Free.flatMap {α : Type} {items : List α} {text : α → Text}
    (each : ∀ item ∈ items, d.Free (text item)) : d.Free (items.flatMap text) := by
  simp only [Free, List.mem_flatMap, not_exists, not_and]
  exact ⟨fun item member => (each item member).1, fun item member => (each item member).2⟩

theorem Free.balanced {text : Text} (free : d.Free text) : d.Balanced text := by
  induction text with
  | nil => exact .nil
  | cons c rest ih =>
    obtain ⟨notOpener, notCloser, later⟩ := free.of_cons
    exact .plain notOpener notCloser (ih later)

theorem Balanced.append {text rest : Text} (front : d.Balanced text) (back : d.Balanced rest) :
    d.Balanced (text ++ rest) := by
  induction front with
  | nil => exact back
  | plain notOpener notCloser _ ih => exact .plain notOpener notCloser ih
  | nested inner _ _ ih =>
    rw [List.append_assoc, List.cons_append]
    exact .nested inner ih

/-! ### The scan, character by character -/

theorem enclosed_plain {c : Char} (notOpener : c ≠ d.opener) (notCloser : c ≠ d.closer)
    (depth : Nat) (rest : Text) :
    d.enclosed depth (c :: rest) =
      (d.enclosed depth rest).map fun (body, after) => (c :: body, after) := by
  rw [enclosed.eq_def]
  simp [notOpener, notCloser]

theorem enclosed_opener (distinct : d.opener ≠ d.closer) (depth : Nat) (rest : Text) :
    d.enclosed depth (d.opener :: rest) =
      (d.enclosed (depth + 1) rest).map fun (body, after) => (d.opener :: body, after) := by
  rw [enclosed.eq_def]
  simp [distinct]

theorem enclosed_closer_zero (rest : Text) :
    d.enclosed 0 (d.closer :: rest) = some ([], rest) := by
  rw [enclosed, if_pos rfl]

theorem enclosed_closer_succ (depth : Nat) (rest : Text) :
    d.enclosed (depth + 1) (d.closer :: rest) =
      (d.enclosed depth rest).map fun (body, after) => (d.closer :: body, after) := by
  rw [enclosed, if_pos rfl]

/-- The scan passes over a balanced text, however many openers are open around it. -/
theorem enclosed_append (distinct : d.opener ≠ d.closer) {inside : Text}
    (balanced : d.Balanced inside) (depth : Nat) (rest : Text) :
    d.enclosed depth (inside ++ rest) =
      (d.enclosed depth rest).map fun (body, after) => (inside ++ body, after) := by
  induction balanced generalizing depth rest with
  | nil => simp
  | plain notOpener notCloser _ ih =>
    rw [List.cons_append, enclosed_plain notOpener notCloser, ih, Option.map_map]
    rfl
  | @nested inside tail _ _ innerIh tailIh =>
    rw [List.append_assoc, List.cons_append, enclosed_opener distinct, innerIh, List.cons_append,
      enclosed_closer_succ, tailIh]
    simp [Function.comp_def]

theorem enclosed_of_balanced (distinct : d.opener ≠ d.closer) {inside : Text}
    (balanced : d.Balanced inside) (after : Text) :
    d.enclosed 0 (inside ++ d.closer :: after) = some (inside, after) := by
  rw [enclosed_append distinct balanced, enclosed_closer_zero]
  simp

/-- The closer that the scan finds does not hang on what stands behind it. -/
theorem enclosed_append_right {depth : Nat} {text inside after : Text}
    (h : d.enclosed depth text = some (inside, after)) (rest : Text) :
    d.enclosed depth (text ++ rest) = some (inside, after ++ rest) := by
  induction text generalizing depth inside with
  | nil => simp [enclosed] at h
  | cons c text ih =>
    rw [List.cons_append]
    simp only [enclosed] at h ⊢
    split at h
    · next closes =>
      rw [if_pos closes]
      cases depth with
      | zero =>
        obtain ⟨rfl, rfl⟩ := Prod.mk.inj (Option.some.inj h)
        rfl
      | succ depth =>
        obtain ⟨⟨inside', after'⟩, found, eq⟩ := Option.map_eq_some_iff.mp h
        obtain ⟨rfl, rfl⟩ := Prod.mk.inj eq
        simp [ih found]
    · next other =>
      rw [if_neg other]
      obtain ⟨⟨inside', after'⟩, found, eq⟩ := Option.map_eq_some_iff.mp h
      obtain ⟨rfl, rfl⟩ := Prod.mk.inj eq
      simp [ih found]

/-! ### Counting open delimiters -/

/-- How many openers stand open behind a text, with `depth` of them open before it; nothing where
a closer has no opener. -/
def level (d : Delimiter) (depth : Nat) : Text → Option Nat
  | [] => some depth
  | c :: rest =>
    if c = d.closer then
      match depth with
      | 0 => none
      | depth + 1 => level d depth rest
    else level d (if c = d.opener then depth + 1 else depth) rest

theorem level_opener (distinct : d.opener ≠ d.closer) (depth : Nat) (rest : Text) :
    d.level depth (d.opener :: rest) = d.level (depth + 1) rest := by
  rw [level.eq_def]
  simp [distinct]

theorem level_closer_succ (depth : Nat) (rest : Text) :
    d.level (depth + 1) (d.closer :: rest) = d.level depth rest := by
  rw [level, if_pos rfl]

theorem level_plain {c : Char} (notOpener : c ≠ d.opener) (notCloser : c ≠ d.closer)
    (depth : Nat) (rest : Text) : d.level depth (c :: rest) = d.level depth rest := by
  rw [level.eq_def]
  simp [notOpener, notCloser]

theorem level_append (depth : Nat) (front back : Text) :
    d.level depth (front ++ back) =
      (d.level depth front).bind fun reached => d.level reached back := by
  induction front generalizing depth with
  | nil => rfl
  | cons c front ih =>
    rw [List.cons_append]
    simp only [level]
    split
    · cases depth with
      | zero => rfl
      | succ depth => exact ih depth
    · exact ih _

theorem level_cons (depth : Nat) (c : Char) (rest : Text) :
    d.level depth (c :: rest) =
      (d.level depth [c]).bind fun reached => d.level reached rest :=
  level_append depth [c] rest

theorem level_balanced (distinct : d.opener ≠ d.closer) {text : Text} (balanced : d.Balanced text)
    (depth : Nat) (rest : Text) : d.level depth (text ++ rest) = d.level depth rest := by
  induction balanced generalizing depth rest with
  | nil => rfl
  | plain notOpener notCloser _ ih =>
    rw [List.cons_append, level_plain notOpener notCloser, ih]
  | @nested inside tail _ _ innerIh tailIh =>
    rw [List.append_assoc, List.cons_append, level_opener distinct, innerIh, List.cons_append,
      level_closer_succ, tailIh]

/-- The innermost opener is closed in a text behind which fewer openers stand open, and the scan
for its closer counts them in the same way. -/
theorem enclosed_of_level {depth outer reached : Nat} {text : Text}
    (h : d.level (depth + 1 + outer) text = some reached) (closes : reached ≤ outer) :
    ∃ body after, d.enclosed depth text = some (body, after) ∧ d.level depth body = some 0 ∧
      d.level outer after = some reached := by
  induction text generalizing depth with
  | nil =>
    have open_ : depth + 1 + outer = reached := Option.some.inj h
    omega
  | cons c rest ih =>
    by_cases closer : c = d.closer
    · subst closer
      rw [Nat.add_right_comm, level_closer_succ] at h
      cases depth with
      | zero =>
        rw [Nat.zero_add] at h
        exact ⟨[], rest, enclosed_closer_zero rest, rfl, h⟩
      | succ depth =>
        obtain ⟨body, after, found, inner, later⟩ := ih h
        refine ⟨d.closer :: body, after, ?_, ?_, later⟩
        · rw [enclosed_closer_succ, found]
          rfl
        · rw [level_closer_succ, inner]
    · by_cases opener : c = d.opener
      · subst opener
        rw [level_opener closer, show depth + 1 + outer + 1 = depth + 1 + 1 + outer by omega] at h
        obtain ⟨body, after, found, inner, later⟩ := ih h
        refine ⟨d.opener :: body, after, ?_, ?_, later⟩
        · rw [enclosed_opener closer, found]
          rfl
        · rw [level_opener closer, inner]
      · rw [level_plain opener closer] at h
        obtain ⟨body, after, found, inner, later⟩ := ih h
        refine ⟨c :: body, after, ?_, ?_, later⟩
        · rw [enclosed_plain opener closer, found]
          rfl
        · rw [level_plain opener closer, inner]

theorem balanced_of_level {text : Text} (h : d.level 0 text = some 0) : d.Balanced text := by
  induction length : text.length using Nat.strongRecOn generalizing text with
  | ind size ih =>
    cases text with
    | nil => exact .nil
    | cons c rest =>
      rw [List.length_cons] at length
      by_cases closer : c = d.closer
      · rw [level, if_pos closer] at h
        cases h
      by_cases opener : c = d.opener
      · subst opener
        rw [level_opener closer] at h
        obtain ⟨body, after, found, inner, later⟩ :=
          enclosed_of_level (show d.level (0 + 1 + 0) rest = some 0 from h) (Nat.le_refl 0)
        have parts := length_of_enclosed found
        rw [enclosed_eq_some found, ← List.cons_append]
        exact .nested (ih body.length (by omega) inner rfl) (ih after.length (by omega) later rfl)
      · rw [level_plain opener closer] at h
        exact .plain opener closer (ih rest.length (by omega) h rfl)

theorem level_of_enclosed {depth : Nat} {text inside after : Text}
    (h : d.enclosed depth text = some (inside, after)) : d.level depth inside = some 0 := by
  induction text generalizing depth inside with
  | nil => simp [enclosed] at h
  | cons c rest ih =>
    simp only [enclosed] at h
    split at h
    · next closes =>
      cases depth with
      | zero =>
        obtain ⟨rfl, -⟩ := Prod.mk.inj (Option.some.inj h)
        rfl
      | succ depth =>
        obtain ⟨⟨inside', after'⟩, found, eq⟩ := Option.map_eq_some_iff.mp h
        obtain ⟨rfl, rfl⟩ := Prod.mk.inj eq
        subst closes
        rw [level_closer_succ]
        exact ih found
    · next other =>
      obtain ⟨⟨inside', after'⟩, found, eq⟩ := Option.map_eq_some_iff.mp h
      obtain ⟨rfl, rfl⟩ := Prod.mk.inj eq
      rw [level.eq_def]
      simp only [if_neg other]
      exact ih found

theorem balanced_of_enclosed {text inside after : Text}
    (h : d.enclosed 0 text = some (inside, after)) : d.Balanced inside :=
  balanced_of_level (level_of_enclosed h)

theorem enclosed_eq_none_iff (distinct : d.opener ≠ d.closer) {opened : Text} :
    d.enclosed 0 opened = none ↔
      ∀ body after, d.Balanced body → opened ≠ body ++ d.closer :: after := by
  constructor
  · rintro unclosed body after balanced rfl
    cases unclosed.symm.trans (enclosed_of_balanced distinct balanced after)
  · intro never
    cases found : d.enclosed 0 opened with
    | none => rfl
    | some parts =>
      obtain ⟨body, after⟩ := parts
      exact absurd (enclosed_eq_some found) (never body after (balanced_of_enclosed found))

theorem balanced_iff_level (distinct : d.opener ≠ d.closer) {text : Text} :
    d.Balanced text ↔ d.level 0 text = some 0 := by
  constructor
  · intro balanced
    have counted := level_balanced distinct balanced 0 []
    rwa [List.append_nil] at counted
  · exact balanced_of_level

instance (text : Text) : Decidable (brace.Balanced text) :=
  decidable_of_iff (brace.level 0 text = some 0) (balanced_iff_level (by decide)).symm

/-- A text in which every opener has its closer, though some closers may have no opener. -/
def Closes (d : Delimiter) (text : Text) : Prop :=
  ∀ opened, d.opener :: opened <:+ text →
    ∃ body after, d.Balanced body ∧ opened = body ++ d.closer :: after

theorem Closes.of_suffix {text after : Text} (closes : d.Closes text) (part : after <:+ text) :
    d.Closes after :=
  fun opened found => closes opened (found.trans part)

theorem Closes.free {text : Text} (closes : d.Closes text) (unclosed : d.closer ∉ text) :
    d.Free text := by
  refine ⟨fun member => ?_, unclosed⟩
  obtain ⟨front, opened, rfl⟩ := List.append_of_mem member
  obtain ⟨body, after, -, rfl⟩ := closes opened (List.suffix_append _ _)
  simp at unclosed

theorem Balanced.closes (distinct : d.opener ≠ d.closer) {text : Text}
    (balanced : d.Balanced text) : d.Closes text := by
  rintro opened ⟨front, rfl⟩
  have counted := (balanced_iff_level distinct).mp balanced
  rw [level_append] at counted
  obtain ⟨outer, -, counted⟩ := Option.bind_eq_some_iff.mp counted
  rw [level_opener distinct, show outer + 1 = 0 + 1 + outer by omega] at counted
  obtain ⟨body, after, found, inner, -⟩ := enclosed_of_level counted (Nat.zero_le outer)
  exact ⟨body, after, balanced_of_level inner, enclosed_eq_some found⟩

/-- A balanced text has no closer before its first opener. -/
theorem Balanced.free_of_prefix {front back : Text} (whole : d.Balanced (front ++ back))
    (unopened : d.opener ∉ front) : d.Free front := by
  induction front with
  | nil => exact ⟨List.not_mem_nil, List.not_mem_nil⟩
  | cons c front ih =>
    rw [List.mem_cons, not_or] at unopened
    generalize text : c :: front ++ back = whole' at whole
    cases whole with
    | nil => cases text
    | plain notOpener notCloser later =>
      obtain ⟨rfl, rfl⟩ := List.cons.inj text
      obtain ⟨opener, closer⟩ := ih later unopened.2
      simp only [Free, List.mem_cons, not_or]
      exact ⟨⟨unopened.1, opener⟩, Ne.symm notCloser, closer⟩
    | nested => exact absurd (List.cons.inj text).1.symm unopened.1

/-- What stands before a balanced text has no bearing on whether the rest is balanced. -/
theorem Balanced.of_append (distinct : d.opener ≠ d.closer) {front back : Text}
    (first : d.Balanced front) (whole : d.Balanced (front ++ back)) : d.Balanced back := by
  rw [balanced_iff_level distinct, level_balanced distinct first] at whole
  exact balanced_of_level whole

end PageClip.Stylesheet.Delimiter
