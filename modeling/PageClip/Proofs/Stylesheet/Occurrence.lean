import PageClip.Proofs.Stylesheet.Rule
import PageClip.Stylesheet.ClassNames

/-!
# Where flat rules stand

The scan for flat rules finds one wherever a selector, a block without inner
blocks and its closing brace follow a brace or the start of the text:
`mem_scanRules_iff`.
-/

namespace PageClip.Stylesheet

open PageClip.Text

/-- A flat rule stands in a text: in front, or behind some brace. -/
inductive Occurs (selector body : Text) : Text → Prop
  | here {back : Text} : selector ≠ [] → Delimiter.brace.Free selector → Delimiter.brace.Free body →
    Occurs selector body (selector ++ '\x7b' :: (body ++ '\x7d' :: back))
  | later {front text : Text} {c : Char} : c = '\x7b' ∨ c = '\x7d' → Occurs selector body text →
    Occurs selector body (front ++ c :: text)

/-- What stands before the first brace of a text, and which brace that is. -/
theorem first_brace {front other rest tail : Text} {c d : Char} (free : Delimiter.brace.Free front)
    (freeOther : Delimiter.brace.Free other) (brace : c = '\x7b' ∨ c = '\x7d')
    (braceOther : d = '\x7b' ∨ d = '\x7d') (same : front ++ c :: rest = other ++ d :: tail) :
    front = other ∧ c = d ∧ rest = tail := by
  induction front generalizing other with
  | nil =>
    cases other with
    | nil => exact ⟨rfl, List.cons.inj same⟩
    | cons e other =>
      obtain ⟨rfl, -⟩ := List.cons.inj same
      obtain ⟨notOpener, notCloser, -⟩ := freeOther.of_cons
      exact absurd brace (not_or.mpr ⟨notOpener, notCloser⟩)
  | cons e front ih =>
    obtain ⟨notOpener, notCloser, freeRest⟩ := free.of_cons
    cases other with
    | nil =>
      obtain ⟨rfl, -⟩ := List.cons.inj same
      exact absurd braceOther (not_or.mpr ⟨notOpener, notCloser⟩)
    | cons f other =>
      obtain ⟨rfl, sameRest⟩ := List.cons.inj same
      obtain ⟨-, -, freeTail⟩ := freeOther.of_cons
      obtain ⟨rfl, later⟩ := ih freeRest freeTail sameRest
      exact ⟨rfl, later⟩

theorem Free.append_cons_ne {front text rest : Text} {c : Char} (free : Delimiter.brace.Free text)
    (brace : c = '\x7b' ∨ c = '\x7d') : text ≠ front ++ c :: rest := by
  rintro rfl
  rcases brace with rfl | rfl
  · exact free.1 (List.mem_append_right _ List.mem_cons_self)
  · exact free.2 (List.mem_append_right _ List.mem_cons_self)

namespace Occurs

variable {selector body text : Text}

theorem not_free (occurs : Occurs selector body text) : ¬ Delimiter.brace.Free text := by
  intro free
  cases occurs with
  | here => exact Free.append_cons_ne free (.inl rfl) rfl
  | later brace => exact Free.append_cons_ne free brace rfl

theorem append_right (occurs : Occurs selector body text) (more : Text) :
    Occurs selector body (text ++ more) := by
  induction occurs with
  | @here back solid free freeBody =>
    rw [List.append_assoc, List.cons_append, List.append_assoc, List.cons_append]
    exact .here solid free freeBody
  | @later front text c brace _ ih =>
    rw [List.append_assoc, List.cons_append]
    exact .later brace ih

/-- A text without braces in front of a flat rule becomes part of its selector, if there is no brace
between them. -/
theorem prepend (occurs : Occurs selector body text) {front : Text}
    (free : Delimiter.brace.Free front) :
    Occurs selector body (front ++ text) ∨ Occurs (front ++ selector) body (front ++ text) := by
  cases occurs with
  | here solid freeSelector freeBody =>
    rw [← List.append_assoc]
    exact .inr (.here (by simp [solid]) (free.append freeSelector) freeBody)
  | later brace rest =>
    rw [← List.append_assoc]
    exact .inl (.later brace rest)

end Occurs

theorem occurs_append_iff {selector body front rest : Text} {c : Char}
    (free : Delimiter.brace.Free front) (brace : c = '\x7b' ∨ c = '\x7d') :
    Occurs selector body (front ++ c :: rest) ↔
      (c = '\x7b' ∧ front ≠ [] ∧ selector = front ∧ Delimiter.brace.Free body ∧
        ∃ back, rest = body ++ '\x7d' :: back) ∨ Occurs selector body rest := by
  constructor
  · intro occurs
    generalize whole : front ++ c :: rest = text at occurs
    cases occurs with
    | here solid freeSelector freeBody =>
      obtain ⟨rfl, rfl, rfl⟩ := first_brace free freeSelector brace (.inl rfl) whole
      exact .inl ⟨rfl, solid, rfl, freeBody, _, rfl⟩
    | @later before text d braceLater inside =>
      -- The brace in front of the rule is `c` itself or stands behind it.
      rcases List.append_eq_append_iff.mp whole with ⟨more, longer, same⟩ | ⟨more, shorter, same⟩
      · cases more with
        | nil => exact .inr ((List.cons.inj same).2 ▸ inside)
        | cons e more =>
          obtain ⟨-, rfl⟩ := List.cons.inj same
          exact .inr (.later braceLater inside)
      · cases more with
        | nil => exact .inr ((List.cons.inj same).2 ▸ inside)
        | cons e more =>
          obtain ⟨rfl, -⟩ := List.cons.inj same
          exact absurd shorter (Free.append_cons_ne free braceLater)
  · rintro (⟨rfl, solid, rfl, freeBody, back, rfl⟩ | inside)
    · exact .here solid free freeBody
    · exact .later brace inside

/-- A body of which `read` has been read ends in a text. -/
def Finishes (read body text : Text) : Prop :=
  ∃ more back, text = more ++ '\x7d' :: back ∧ Delimiter.brace.Free more ∧ body = read ++ more

theorem not_finishes_nil {read body : Text} : ¬ Finishes read body [] := by
  rintro ⟨more, back, same, -⟩
  simp at same

theorem finishes_unread_iff {body text : Text} :
    Finishes [] body text ↔ Delimiter.brace.Free body ∧ ∃ back, text = body ++ '\x7d' :: back := by
  constructor
  · rintro ⟨more, back, rfl, free, rfl⟩
    exact ⟨free, back, rfl⟩
  · rintro ⟨free, back, rfl⟩
    exact ⟨body, back, rfl, free, rfl⟩

theorem finishes_closer_iff {read body text : Text} :
    Finishes read body ('\x7d' :: text) ↔ body = read := by
  constructor
  · rintro ⟨more, back, same, free, rfl⟩
    cases more with
    | nil => exact List.append_nil read
    | cons c more =>
      obtain ⟨rfl, -⟩ := List.cons.inj same
      exact absurd List.mem_cons_self free.2
  · rintro rfl
    exact ⟨[], text, rfl, by decide, (List.append_nil body).symm⟩

theorem not_finishes_opener {read body text : Text} : ¬ Finishes read body ('\x7b' :: text) := by
  rintro ⟨more, back, same, free, -⟩
  cases more with
  | nil => exact absurd (List.cons.inj same).1 (by decide)
  | cons c more =>
    obtain ⟨rfl, -⟩ := List.cons.inj same
    exact free.1 List.mem_cons_self

theorem finishes_plain_iff {read body text : Text} {c : Char} (notOpener : c ≠ '\x7b')
    (notCloser : c ≠ '\x7d') :
    Finishes read body (c :: text) ↔ Finishes (read ++ [c]) body text := by
  constructor
  · rintro ⟨more, back, same, free, rfl⟩
    cases more with
    | nil => exact absurd (List.cons.inj same).1 notCloser
    | cons d more =>
      obtain ⟨rfl, rfl⟩ := List.cons.inj same
      exact ⟨more, back, rfl, free.of_cons.2.2, by simp⟩
  · rintro ⟨more, back, rfl, free, rfl⟩
    refine ⟨c :: more, back, rfl, ?_, by simp⟩
    simp only [Delimiter.Free, List.mem_cons, not_or]
    exact ⟨⟨Ne.symm notOpener, free.1⟩, Ne.symm notCloser, free.2⟩

theorem free_reverse_cons {text : Text} {c : Char} (notOpener : c ≠ '\x7b') (notCloser : c ≠ '\x7d')
    (free : Delimiter.brace.Free text.reverse) : Delimiter.brace.Free (c :: text).reverse := by
  rw [List.reverse_cons]
  apply free.append
  simpa [Delimiter.Free, Delimiter.brace] using ⟨Ne.symm notOpener, Ne.symm notCloser⟩

/-- What the scan finds when a selector is under way, and when a body is. -/
theorem mem_scan_iff {pair : Text × Text} {selector text : Text}
    (free : Delimiter.brace.Free selector.reverse) :
    (pair ∈ scanSelector selector text ↔ Occurs pair.1 pair.2 (selector.reverse ++ text)) ∧
      ∀ body, Delimiter.brace.Free body.reverse →
        (pair ∈ scanSelector.scanBody selector body text ↔
          (pair.1 = selector.reverse ∧ Finishes body.reverse pair.2 text) ∨
            Occurs pair.1 pair.2 (body.reverse ++ text)) := by
  induction text generalizing selector with
  | nil =>
    constructor
    · have none : ¬ Occurs pair.1 pair.2 (selector.reverse ++ []) := fun occurs =>
        occurs.not_free (by simpa using free)
      simp only [scanSelector, List.not_mem_nil, none]
    · intro body freeBody
      have none : ¬ Occurs pair.1 pair.2 (body.reverse ++ []) := fun occurs =>
        occurs.not_free (by simpa using freeBody)
      simp only [scanSelector.scanBody, List.not_mem_nil, none, not_finishes_nil, and_false, or_self]
  | cons c text ih =>
    have fresh := (@ih [] (by decide)).1
    rw [List.reverse_nil, List.nil_append] at fresh
    by_cases closer : c = '\x7d'
    · subst closer
      constructor
      · rw [scanSelector, fresh, occurs_append_iff free (.inr rfl)]
        simp
      · intro body freeBody
        rw [scanSelector.scanBody, List.mem_cons, fresh, finishes_closer_iff,
          occurs_append_iff freeBody (.inr rfl), Prod.ext_iff]
        simp
    by_cases opener : c = '\x7b'
    · subst opener
      -- Whatever is under way becomes the selector of the block that opens here.
      have restart (run : Text) (freeRun : Delimiter.brace.Free run.reverse) :
          pair ∈ (if run.isEmpty then scanSelector [] text else scanSelector.scanBody run [] text) ↔
            Occurs pair.1 pair.2 (run.reverse ++ '\x7b' :: text) := by
        rw [occurs_append_iff freeRun (.inl rfl)]
        cases run with
        | nil => simp [fresh]
        | cons d run =>
          rw [List.isEmpty_cons, if_neg Bool.false_ne_true, (ih freeRun).2 [] (by decide),
            List.reverse_nil, finishes_unread_iff, List.nil_append]
          simp
      constructor
      · rw [scanSelector]
        exact restart selector free
      · intro body freeBody
        rw [scanSelector.scanBody]
        simp only [restart body freeBody, not_finishes_opener, and_false, false_or]
    · constructor
      · rw [scanSelector.eq_4 selector c _ closer opener,
          (ih (free_reverse_cons opener closer free)).1]
        simp
      · intro body freeBody
        rw [scanSelector.scanBody.eq_4 selector body c _ closer opener,
          (ih free).2 (c :: body) (free_reverse_cons opener closer freeBody),
          finishes_plain_iff opener closer]
        simp

theorem mem_scanRules_iff {selector body text : Text} :
    (selector, body) ∈ scanRules text ↔ Occurs selector body text :=
  (@mem_scan_iff (selector, body) [] text (by decide)).1

end PageClip.Stylesheet
