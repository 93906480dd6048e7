import Mathlib.Data.List.Infix
import PageClip.Text.Basic

/-!
# Cutting at a mark

A cut is made at the first mark, so what stands behind it plays no part in where
it is, and a text without the mark is passed over. `afterLast` looks for the
last mark. The infix lemmas say where a mark can occur in texts that are put
together.
-/

namespace PageClip.Text

variable {mark : Text}

theorem cut?_cons {rest : Text} {c : Char} (unmarked : ¬ mark <+: c :: rest) :
    cut? mark (c :: rest) =
      (cut? mark rest).map fun (before, after) => (c :: before, after) := by
  rw [cut?, if_neg]
  exact fun found => unmarked (List.isPrefixOf_iff_prefix.mp found)

theorem cut?_append_right {text before after : Text}
    (h : cut? mark text = some (before, after)) (rest : Text) :
    cut? mark (text ++ rest) = some (before, after ++ rest) := by
  induction text generalizing before with
  | nil =>
    rw [cut?] at h
    split at h
    · next empty =>
      obtain ⟨rfl, rfl⟩ := Prod.mk.inj (Option.some.inj h)
      obtain rfl := List.isEmpty_iff.mp empty
      cases rest <;> rfl
    · cases h
  | cons c text ih =>
    rw [cut?] at h
    split at h
    · next here =>
      obtain ⟨rfl, rfl⟩ := Prod.mk.inj (Option.some.inj h)
      have found := List.isPrefixOf_iff_prefix.mp here
      rw [List.cons_append, cut?, if_pos, ← List.cons_append,
        List.drop_append_of_le_length found.length_le]
      exact List.isPrefixOf_iff_prefix.mpr (found.trans (List.prefix_append _ _))
    · next other =>
      obtain ⟨⟨before', after'⟩, found, eq⟩ := Option.map_eq_some_iff.mp h
      obtain ⟨rfl, rfl⟩ := Prod.mk.inj eq
      have fits : mark.length ≤ (c :: text).length := by
        have := length_of_cut? found
        simp only [List.length_cons]
        omega
      have unmarked : ¬ mark <+: c :: (text ++ rest) := fun starts =>
        other (List.isPrefixOf_iff_prefix.mpr
          (List.prefix_of_prefix_length_le starts (List.prefix_append (c :: text) rest) fits))
      rw [List.cons_append, cut?_cons unmarked, ih found]
      rfl

theorem cut?_eq_none_of_clean {text : Text} (clean : ¬ mark <:+: text) : cut? mark text = none := by
  cases found : cut? mark text with
  | none => rfl
  | some parts =>
    obtain ⟨before, after⟩ := parts
    exact absurd ⟨before, after, (cut?_eq_some found).symm⟩ clean

/-- A text without a character reaches no further than that character. -/
theorem prefix_of_not_mem {mark : Char} {front rest other tail : Text} (absent : mark ∉ front)
    (eq : front ++ rest = other ++ mark :: tail) : front <+: other := by
  rcases List.append_eq_append_iff.mp eq with ⟨more, longer, -⟩ | ⟨more, shorter, eq'⟩
  · exact ⟨more, longer.symm⟩
  · cases more with
    | nil => exact ⟨[], by rw [shorter, List.append_nil, List.append_nil]⟩
    | cons c more =>
      obtain rfl := (List.cons.inj eq').1
      exact absurd (by simp [shorter]) absent

/-- No mark stands across a character that it does not have. -/
theorem infix_append_cons_iff {c : Char} (absent : c ∉ mark) {front back : Text} :
    mark <:+: front ++ c :: back ↔ mark <:+: front ∨ mark <:+: back := by
  constructor
  · intro found
    induction front with
    | nil =>
      rcases List.infix_cons_iff.mp found with ⟨tail, eq⟩ | later
      · exact .inl (prefix_of_not_mem absent (show mark ++ tail = [] ++ c :: back from eq)).isInfix
      · exact .inr later
    | cons d front ih =>
      rcases List.infix_cons_iff.mp found with ⟨tail, eq⟩ | later
      · exact .inl (prefix_of_not_mem absent (show mark ++ tail = d :: front ++ c :: back from eq)).isInfix
      · exact (ih later).imp_left fun here => here.trans (List.suffix_cons d front).isInfix
  · rintro (early | late)
    · exact early.trans (List.prefix_append front _).isInfix
    · exact late.trans ((List.suffix_cons c back).trans (List.suffix_append front _)).isInfix

theorem infix_intercalate {glue part : Text} {parts : List Text} (member : part ∈ parts) :
    part <:+: glue.intercalate parts := by
  induction parts with
  | nil => cases member
  | cons first rest ih =>
    cases rest with
    | nil =>
      rw [List.mem_singleton.mp member, List.intercalate_singleton]
    | cons next rest =>
      rw [List.intercalate_cons_cons]
      rcases List.mem_cons.mp member with rfl | later
      · rw [List.append_assoc]
        exact (List.prefix_append _ _).isInfix
      · exact (ih later).trans (List.suffix_append _ _).isInfix

/-- A mark is not found before or across a character that it does not have, if it is not found
before that character. -/
theorem cut?_append_of_none {c : Char} (absent : c ∉ mark) {front : Text}
    (none : cut? mark front = none) (back : Text) :
    cut? mark (front ++ c :: back) =
      (cut? mark back).map fun (before, after) => (front ++ c :: before, after) := by
  induction front with
  | nil =>
    have unmarked : ¬ mark <+: c :: back := by
      rintro ⟨tail, eq⟩
      rw [List.prefix_nil.mp (prefix_of_not_mem absent (show mark ++ tail = [] ++ c :: back from eq))] at none
      cases none
    exact cut?_cons unmarked
  | cons d front ih =>
    rw [cut?] at none
    split at none
    · cases none
    next other =>
    have unmarked : ¬ mark <+: d :: (front ++ c :: back) := by
      rintro ⟨tail, eq⟩
      rw [← List.cons_append] at eq
      exact other (List.isPrefixOf_iff_prefix.mpr (prefix_of_not_mem absent eq))
    rw [List.cons_append, cut?_cons unmarked, ih (Option.map_eq_none_iff.mp none), Option.map_map]
    rfl

/-- At a mark of one character a text is cut in one way. -/
theorem cut?_char_eq_some_iff {q : Char} {text before after : Text} :
    cut? [q] text = some (before, after) ↔ text = before ++ q :: after ∧ q ∉ before := by
  induction text generalizing before with
  | nil => simp [cut?]
  | cons c text ih =>
    by_cases here : c = q
    · subst here
      have found : cut? [c] (c :: text) = some ([], text) := by simp [cut?]
      rw [found, Option.some.injEq, Prod.mk.injEq]
      cases before with
      | nil => simp
      | cons d before =>
        simp only [List.cons_append, List.cons.injEq, List.mem_cons, reduceCtorEq, false_and, false_iff]
        rintro ⟨⟨rfl, -⟩, absent⟩
        exact absent (.inl rfl)
    · have unmarked : ¬ [q] <+: c :: text := fun starts =>
        here (List.cons_prefix_cons.mp starts).1.symm
      rw [cut?_cons unmarked, Option.map_eq_some_iff]
      constructor
      · rintro ⟨⟨front, back⟩, found, eq⟩
        obtain ⟨rfl, rfl⟩ := Prod.mk.inj eq
        obtain ⟨rfl, absent⟩ := ih.mp found
        exact ⟨rfl, by simp [absent, Ne.symm here]⟩
      · rintro ⟨eq, absent⟩
        cases before with
        | nil => exact absurd (List.cons.inj eq).1 here
        | cons d before =>
          obtain ⟨rfl, rfl⟩ := List.cons.inj eq
          exact ⟨(before, after), ih.mpr ⟨rfl, fun later => absent (List.mem_cons_of_mem c later)⟩, rfl⟩

theorem exists_cut?_char {q : Char} {text : Text} (member : q ∈ text) :
    ∃ before after, cut? [q] text = some (before, after) := by
  obtain ⟨before, after, eq, absent⟩ := List.eq_append_cons_of_mem member
  exact ⟨before, after, cut?_char_eq_some_iff.mpr ⟨eq, absent⟩⟩

theorem afterLast_append {mark : Char} {back : Text} (absent : mark ∉ back) (front : Text) :
    afterLast mark (front ++ back) = afterLast mark front ++ back := by
  have passed : ∀ c ∈ back.reverse, decide (c ≠ mark) = true := by
    intro c member
    have other : c ≠ mark := fun same => absent (same ▸ List.mem_reverse.mp member)
    simpa using other
  rw [afterLast, List.reverse_append, List.takeWhile_append_of_pos passed, List.reverse_append,
    List.reverse_reverse, afterLast]

theorem afterLast_of_not_mem {mark : Char} {text : Text} (absent : mark ∉ text) :
    afterLast mark text = text :=
  afterLast_append absent []

theorem afterLast_append_of_mem {mark : Char} {back : Text} (member : mark ∈ back) (front : Text) :
    afterLast mark (front ++ back) = afterLast mark back := by
  obtain ⟨before, after, eq, absent⟩ := List.eq_append_cons_of_mem (List.mem_reverse.mpr member)
  have whole : back = after.reverse ++ [mark] ++ before.reverse := by
    rw [← back.reverse_reverse, eq]
    simp
  have none : mark ∉ before.reverse := by simpa using absent
  rw [whole, ← List.append_assoc, afterLast_append none, afterLast_append none]
  simp [afterLast]

/-- A text ends in what follows its last mark. -/
theorem exists_afterLast (mark : Char) (text : Text) :
    ∃ front, text = front ++ afterLast mark text ∧ mark ∉ afterLast mark text ∧
      (front = [] ∨ ∃ before, front = before ++ [mark]) := by
  by_cases member : mark ∈ text
  · obtain ⟨back, before, eq, absent⟩ := List.eq_append_cons_of_mem (List.mem_reverse.mpr member)
    have whole : text = before.reverse ++ [mark] ++ back.reverse := by
      rw [← text.reverse_reverse, eq]
      simp
    have last : afterLast mark text = back.reverse := by
      rw [whole, afterLast_append (by simpa using absent)]
      simp [afterLast]
    rw [last]
    exact ⟨before.reverse ++ [mark], whole, by simpa using absent, .inr ⟨before.reverse, rfl⟩⟩
  · rw [afterLast_of_not_mem member]
    exact ⟨[], rfl, member, .inl rfl⟩

end PageClip.Text
