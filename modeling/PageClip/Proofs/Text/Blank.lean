import Mathlib.Data.List.TakeWhile
import PageClip.Text.Blank

/-!
# Trimming

`trim` forgets the blanks around a text, and what it returns is trimmed.
-/

namespace PageClip.Text

/-- A text of nothing but blanks. -/
def AllBlank (text : Text) : Prop := ∀ c ∈ text, isBlank c

instance (text : Text) : Decidable (AllBlank text) := List.decidableBAll _ text

theorem AllBlank.append {front back : Text} (first : AllBlank front) (second : AllBlank back) :
    AllBlank (front ++ back) := by
  intro c member
  rcases List.mem_append.mp member with early | late
  · exact first c early
  · exact second c late

theorem AllBlank.not_mem {text : Text} (blank : AllBlank text) {c : Char}
    (solid : isBlank c = false) : c ∉ text := by
  intro member
  simp [blank c member] at solid

variable {gap : Text}

theorem trimRight_append_blank (blank : AllBlank gap) (text : Text) :
    trimRight (text ++ gap) = trimRight text := by
  unfold trimRight
  rw [List.reverse_append, List.dropWhile_append_of_pos]
  intro c member
  exact blank c (List.mem_reverse.mp member)

theorem trimRight_append_of_not_blank {c : Char} (solid : isBlank c = false) (before after : Text) :
    trimRight (before ++ c :: after) = before ++ c :: trimRight after := by
  unfold trimRight
  rw [List.reverse_append, List.reverse_cons, List.append_assoc, List.dropWhile_append]
  split
  · next dropped =>
    have gone : after.reverse.dropWhile isBlank = [] := List.isEmpty_iff.mp dropped
    simp [gone, solid]
  · simp

theorem exists_trimRight_append (text : Text) :
    ∃ gap, AllBlank gap ∧ text = trimRight text ++ gap := by
  refine ⟨(text.reverse.takeWhile isBlank).reverse, ?_, ?_⟩
  · intro c member
    exact List.mem_takeWhile_imp (List.mem_reverse.mp member)
  · rw [trimRight, ← List.reverse_append, List.takeWhile_append_dropWhile, List.reverse_reverse]

theorem exists_trim_append (text : Text) :
    ∃ front back, AllBlank front ∧ AllBlank back ∧ text = front ++ trim text ++ back := by
  obtain ⟨back, blank, eq⟩ := exists_trimRight_append (trimLeft text)
  refine ⟨text.takeWhile isBlank, back, fun c member => List.mem_takeWhile_imp member, blank, ?_⟩
  rw [List.append_assoc, trim, ← eq, trimLeft, List.takeWhile_append_dropWhile]

theorem trim_blank_append (blank : AllBlank gap) (text : Text) :
    trim (gap ++ text) = trim text := by
  unfold trim trimLeft
  rw [List.dropWhile_append_of_pos blank]

theorem trim_append_blank (blank : AllBlank gap) (text : Text) :
    trim (text ++ gap) = trim text := by
  unfold trim trimLeft
  rw [List.dropWhile_append]
  split
  · next dropped =>
    have gone : text.dropWhile isBlank = [] := List.isEmpty_iff.mp dropped
    rw [gone, List.dropWhile_eq_nil_iff.mpr blank]
  · exact trimRight_append_blank blank _

theorem trim_isInfix (text : Text) : trim text <:+: text := by
  obtain ⟨front, back, -, -, eq⟩ := exists_trim_append text
  exact ⟨front, back, eq.symm⟩

theorem infix_of_blank_append {word text : Text} (blank : AllBlank gap)
    (solid : ∀ c ∈ word.head?, isBlank c = false) (found : word <:+: gap ++ text) :
    word <:+: text := by
  induction gap with
  | nil => exact found
  | cons c gap ih =>
    obtain ⟨here, later⟩ := List.forall_mem_cons.mp blank
    rcases List.infix_cons_iff.mp found with starts | inside
    · cases word with
      | nil => exact List.nil_infix
      | cons d word =>
        obtain ⟨rfl, -⟩ := List.cons_prefix_cons.mp starts
        exact absurd here (by simp [solid d rfl])
    · exact ih later inside

/-- What neither begins nor ends in a blank is still there once the text is trimmed. -/
theorem infix_trim {word text : Text} (head : ∀ c ∈ word.head?, isBlank c = false)
    (last : ∀ c ∈ word.getLast?, isBlank c = false) (found : word <:+: text) :
    word <:+: trim text := by
  obtain ⟨front, back, before, behind, eq⟩ := exists_trim_append text
  rw [eq, List.append_assoc] at found
  have inside := infix_of_blank_append before head found
  rw [← List.reverse_infix, List.reverse_append] at inside
  rw [← List.reverse_infix]
  refine infix_of_blank_append (fun c member => behind c (List.mem_reverse.mp member)) ?_ inside
  rwa [List.head?_reverse]

theorem trim_trimRight (text : Text) : trim (trimRight text) = trim text := by
  obtain ⟨gap, blank, eq⟩ := exists_trimRight_append text
  calc trim (trimRight text) = trim (trimRight text ++ gap) := (trim_append_blank blank _).symm
    _ = trim text := by rw [← eq]

theorem trim_of_blank (blank : AllBlank gap) : trim gap = [] := by
  have := trim_blank_append blank []
  rwa [List.append_nil] at this

theorem trim_trim (text : Text) : trim (trim text) = trim text := by
  obtain ⟨front, back, before, behind, eq⟩ := exists_trim_append text
  calc trim (trim text) = trim (front ++ trim text ++ back) := by
        rw [trim_append_blank behind, trim_blank_append before]
    _ = trim text := by rw [← eq]

theorem trimRight_concat {c : Char} (solid : isBlank c = false) (text : Text) :
    trimRight (text ++ [c]) = text ++ [c] :=
  trimRight_append_of_not_blank solid text []

theorem trimLeft_of_trimmed {text : Text} (trimmed : trim text = text) : trimLeft text = text := by
  have part : trimLeft text <:+ text := List.dropWhile_suffix isBlank
  apply part.eq_of_length_le
  calc text.length = (trim text).length := by rw [trimmed]
    _ ≤ (trimLeft text).length := by
      simpa [trim, trimRight] using
        (List.dropWhile_sublist isBlank (l := (trimLeft text).reverse)).length_le

theorem trim_concat {c : Char} (solid : isBlank c = false) {text : Text}
    (trimmed : trim text = text) : trim (text ++ [c]) = text ++ [c] := by
  have kept : trimLeft (text ++ [c]) = text ++ [c] := by
    have whole := trimLeft_of_trimmed trimmed
    unfold trimLeft at whole ⊢
    rw [List.dropWhile_append, whole]
    cases text with
    | nil => simp [solid]
    | cons d text => rfl
  rw [trim, kept, trimRight_concat solid]

/-- Only blanks are trimmed away in front of a word. -/
theorem allBlank_of_trim_append {front word : Text} {c : Char} (solid : isBlank c = false)
    (trimmed : trim (front ++ (word ++ [c])) = word ++ [c]) : AllBlank front := by
  rw [trim, trimLeft, List.dropWhile_append] at trimmed
  split at trimmed
  · next gone => exact List.dropWhile_eq_nil_iff.mp (List.isEmpty_iff.mp gone)
  · rw [← List.append_assoc, trimRight_concat solid] at trimmed
    have lengths := congrArg List.length trimmed
    simp only [List.length_append] at lengths
    exact List.dropWhile_eq_nil_iff.mp (List.length_eq_zero_iff.mp (by omega))

theorem blank_eq_nil_of_trimmed {text : Text} (blank : AllBlank gap)
    (trimmed : trim (text ++ gap) = text ++ gap) : gap = [] := by
  have shorter := length_trim_le text
  rw [← trim_append_blank blank text, trimmed, List.length_append] at shorter
  exact List.length_eq_zero_iff.mp (by omega)

theorem trimRight_of_trimmed {text : Text} (trimmed : trim text = text) :
    trimRight text = text := by
  obtain ⟨gap, blank, eq⟩ := exists_trimRight_append text
  rw [eq] at trimmed
  rw [blank_eq_nil_of_trimmed blank trimmed, List.append_nil] at eq
  exact eq.symm

end PageClip.Text
