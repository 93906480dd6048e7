import PageClip.Proofs.Stylesheet.Reference

/-!
# Texts resolved one behind the other

A text can be resolved by itself, whatever stands behind it, exactly if every
reference in it is closed: `resolve_append_iff`.
-/

namespace PageClip.Stylesheet

open PageClip.Text

theorem Delimiter.enclosed_closers (d : Delimiter) (depth : Nat) :
    ∃ inside, d.enclosed depth (List.replicate (depth + 1) d.closer) = some (inside, []) := by
  induction depth with
  | zero => exact ⟨[], enclosed_closer_zero []⟩
  | succ depth ih =>
    obtain ⟨inside, found⟩ := ih
    rw [List.replicate_succ, enclosed_closer_succ, found]
    exact ⟨d.closer :: inside, rfl⟩

/-- What is never closed is closed by enough closers behind it. -/
theorem Delimiter.exists_closers {d : Delimiter} (distinct : d.opener ≠ d.closer) {depth : Nat}
    {text : Text} (unclosed : d.enclosed depth text = none) :
    ∃ count inside,
      d.enclosed depth (text ++ List.replicate (count + 1) d.closer) = some (inside, []) := by
  induction text generalizing depth with
  | nil => exact ⟨depth, d.enclosed_closers depth⟩
  | cons c rest ih =>
    by_cases closer : c = d.closer
    · subst closer
      cases depth with
      | zero =>
        rw [enclosed_closer_zero] at unclosed
        cases unclosed
      | succ depth =>
        rw [enclosed_closer_succ, Option.map_eq_none_iff] at unclosed
        obtain ⟨count, inside, found⟩ := ih unclosed
        refine ⟨count, d.closer :: inside, ?_⟩
        rw [List.cons_append, enclosed_closer_succ, found]
        rfl
    by_cases opener : c = d.opener
    · subst opener
      rw [enclosed_opener distinct, Option.map_eq_none_iff] at unclosed
      obtain ⟨count, inside, found⟩ := ih unclosed
      refine ⟨count, d.opener :: inside, ?_⟩
      rw [List.cons_append, enclosed_opener distinct, found]
      rfl
    · rw [enclosed_plain opener closer, Option.map_eq_none_iff] at unclosed
      obtain ⟨count, inside, found⟩ := ih unclosed
      refine ⟨count, c :: inside, ?_⟩
      rw [List.cons_append, enclosed_plain opener closer, found]
      rfl

/-- The scan of a text closes all its references, or comes upon a first one that it does not. -/
theorem referencesClosed_or_unclosed (text : Text) :
    ReferencesClosed text ∨ ∃ before opened, text = before ++ (referenceMark ++ opened) ∧
      ReferencesClosed before ∧ Delimiter.paren.enclosed 0 opened = none := by
  induction text using reference_induction with
  | nil => exact .inl .nil
  | plain c rest unmarked ih =>
    rcases ih with closed | ⟨before, opened, rfl, closed, none⟩
    · exact .inl (.plain unmarked closed)
    · refine .inr ⟨c :: before, opened, rfl, .plain (fun starts => unmarked ?_) closed, none⟩
      exact starts.trans (List.prefix_append (c :: before) _)
  | unclosed opened closes => exact .inr ⟨[], opened, rfl, .nil, closes⟩
  | reference opened inside after closes _ ih =>
    rcases ih with closed | ⟨before, opened', rfl, closed, none⟩
    · exact .inl (.reference closes closed)
    · have whole := Delimiter.enclosed_eq_some closes
      have balanced := Delimiter.balanced_of_enclosed closes
      refine .inr ⟨_, opened', ?_, .balanced balanced closed, none⟩
      rw [whole]
      simp [Delimiter.paren]

theorem resolved_unclosed {values : Variables} {seen : List Text} {opened : Text}
    (unclosed : Delimiter.paren.enclosed 0 opened = none) :
    resolved values seen (referenceMark ++ opened) = referenceMark ++ opened := by
  rw [resolved, resolveFrom_unclosed (cut?_mark opened) unclosed]

/-- A name with an empty value. -/
theorem replaced_empty (inside : Text) : replaced [(referenceName inside, [])] [] inside = [] := by
  have found : replacement? [(referenceName inside, [])] [] (referenceName inside) = some [] := by
    simp [replacement?, Table.find?]
  rw [replaced, found]
  exact resolved_nil

/-- The references of a text are all closed in it exactly if it can be resolved whatever text stands
behind it, unless a mark begins in the one and ends in the other. Of the text behind it only the
offsets are counted on. -/
theorem resolve_append_iff {front : Text} :
    ReferencesClosed front ↔ ∀ values back, ¬ Straddles front back →
      (resolve values (front ++ back)).text =
          (resolve values front).text ++ (resolve values back).text ∧
        (resolve values (front ++ back)).events =
          (resolve values front).events ++ (resolveFrom values [] front.length back).events := by
  constructor
  · intro closed values back apart
    have whole : resolve values (front ++ back) =
        (resolve values front).append (resolveFrom values [] (0 + front.length) back) :=
      resolveFrom_append closed apart 0
    rw [Nat.zero_add] at whole
    rw [whole, Resolution.text_append, text_resolveFrom]
    exact ⟨rfl, rfl⟩
  · intro law
    rcases referencesClosed_or_unclosed front with closed | ⟨before, opened, rfl, closed, unclosed⟩
    · exact closed
    exfalso
    -- Closers behind the text close its reference, which an empty value then removes.
    obtain ⟨count, inside, closes⟩ := Delimiter.exists_closers (by decide) unclosed
    have apart : ¬ Straddles (before ++ (referenceMark ++ opened))
        (List.replicate (count + 1) Delimiter.paren.closer) :=
      not_straddles_of_head (by decide)
    have apartBefore (rest : Text) : ¬ Straddles before (referenceMark ++ rest) :=
      not_straddles_of_head (by decide)
    have same := (law [(referenceName inside, [])] _ apart).1
    change resolved _ [] _ = resolved _ [] _ ++ resolved _ [] _ at same
    rw [List.append_assoc, List.append_assoc, resolved_append closed (apartBefore _),
      resolved_append closed (apartBefore _), resolved_reference closes, resolved_unclosed unclosed,
      replaced_empty, resolved_nil] at same
    have lengths := congrArg List.length same
    simp [referenceMark] at lengths

/-- Two names that refer to each other, and one whose value leaves a reference open. -/
def cyclicValues : Variables :=
  [("--a".toList, "var(--b)".toList), ("--b".toList, "var(--a, x) 1".toList),
    ("--c".toList, "var(".toList)]

def closedText : Text := "var(--a) var(--z, var(--a, 3))".toList

def openText : Text := " var(--c) var(--b".toList

theorem resolve_append_iff_cyclicValues :
    ReferencesClosed closedText ∧ ¬ Straddles closedText openText ∧
      (resolve cyclicValues closedText).text = "x 1 x 1".toList ∧
      (resolve cyclicValues openText).text = " var( var(--b".toList ∧
      (resolve cyclicValues (closedText ++ openText)).text = "x 1 x 1 var( var(--b".toList ∧
      ¬ ReferencesClosed openText := by
  have closed : ReferencesClosed closedText := by
    have first : Delimiter.paren.Balanced "--a".toList := Delimiter.balanced_of_level rfl
    have second : Delimiter.paren.Balanced "--z, var(--a, 3)".toList :=
      Delimiter.balanced_of_level rfl
    exact .balanced first (.char (by decide) (.balanced second .nil))
  have apart : ¬ Straddles closedText openText := not_straddles_of_head (by decide)
  have early : (resolve cyclicValues closedText).text = "x 1 x 1".toList := by cbv
  have late : (resolve cyclicValues openText).text = " var( var(--b".toList := by cbv
  refine ⟨closed, apart, early, late, ?_, ?_⟩
  · rw [(resolve_append_iff.mp closed cyclicValues openText apart).1, early, late]
    decide
  · intro closedLate
    have meets : ¬ Straddles openText [')'] := not_straddles_of_head (by decide)
    have same := (resolve_append_iff.mp closedLate cyclicValues [')'] meets).1
    have whole : (resolve cyclicValues (openText ++ [')'])).text = " var( var(--b) 1".toList := by cbv
    have closer : (resolve cyclicValues [')']).text = [')'] := by cbv
    rw [whole, late, closer] at same
    exact absurd same (by decide)

end PageClip.Stylesheet
