import PageClip.Proofs.Text.Cut
import PageClip.Stylesheet.Comment

/-!
# Text without comments

Nothing is stripped from a text without the opening mark of a comment. The text
behind one whose comments are closed is stripped on its own, unless a mark comes
about where the two meet (`stripComments_append_of_closed`).
-/

namespace PageClip.Stylesheet

open PageClip.Text

/-- The mark that opens a comment. -/
def commentStart : Text := ['/', '*']

theorem stripComments_cons {c : Char} {rest : Text} (h : ¬ commentStart <+: c :: rest) :
    stripComments (c :: rest) = c :: stripComments rest := by
  rw [stripComments.eq_3]
  rintro tail rfl rfl
  exact h (List.prefix_append commentStart tail)

theorem unopened_append {c : Char} {rest back : Text} (unopened : ¬ commentStart <+: c :: rest)
    (apart : rest = [] → ¬ (c = '/' ∧ back.head? = some '*')) :
    ¬ commentStart <+: c :: (rest ++ back) := by
  intro starts
  obtain ⟨rfl, later⟩ := List.cons_prefix_cons.mp starts
  -- The mark ends inside the text, or its second half is the first character behind it.
  cases rest with
  | nil =>
    obtain ⟨tail, eq⟩ := later
    rw [List.nil_append] at eq
    exact apart rfl ⟨rfl, by rw [← eq]; rfl⟩
  | cons d rest =>
    obtain ⟨rfl, -⟩ := List.cons_prefix_cons.mp later
    exact unopened (List.prefix_append commentStart rest)

/-! ### Closed comments -/

theorem stripComments_comment {opened inside after : Text}
    (ends : cut? commentEnd opened = some (inside, after)) :
    stripComments (commentStart ++ opened) = stripComments after := by
  rw [commentStart, List.cons_append, List.singleton_append, stripComments]
  split
  · next ends' =>
    obtain ⟨-, rfl⟩ := Prod.mk.inj (Option.some.inj (ends.symm.trans ends'))
    rfl
  · next unended => simp [ends] at unended

theorem stripComments_unended {opened : Text} (unended : cut? commentEnd opened = none) :
    stripComments (commentStart ++ opened) = commentStart ++ opened := by
  rw [commentStart, List.cons_append, List.singleton_append, stripComments]
  split
  · next ends => simp [unended] at ends
  · rfl

/-- Every comment of a text is closed in it. -/
inductive CommentsClosed : Text → Prop
  | nil : CommentsClosed []
  | plain {c : Char} {rest : Text} :
    ¬ commentStart <+: c :: rest → CommentsClosed rest → CommentsClosed (c :: rest)
  | comment {opened inside after : Text} :
    cut? commentEnd opened = some (inside, after) → CommentsClosed after →
      CommentsClosed (commentStart ++ opened)

theorem commentsClosed_of_clean {text : Text} (clean : ¬ commentStart <:+: text) :
    CommentsClosed text := by
  induction text with
  | nil => exact .nil
  | cons c rest ih =>
    exact .plain (fun starts => clean starts.isInfix)
      (ih fun found => clean (found.trans (List.suffix_cons c rest).isInfix))

theorem stripComments_append_of_closed {front back : Text} (closed : CommentsClosed front)
    (apart : ¬ ((stripComments front).getLast? = some '/' ∧ back.head? = some '*')) :
    stripComments (front ++ back) = stripComments front ++ stripComments back := by
  induction closed with
  | nil => rw [stripComments, List.nil_append, List.nil_append]
  | @plain c rest unopened _ ih =>
    rw [stripComments_cons unopened] at apart ⊢
    have apartRest : ¬ ((stripComments rest).getLast? = some '/' ∧ back.head? = some '*') := by
      rintro ⟨ends, starts⟩
      refine apart ⟨?_, starts⟩
      rw [List.getLast?_cons, ends]
      rfl
    have unopenedHere : ¬ commentStart <+: c :: (rest ++ back) := by
      refine unopened_append unopened ?_
      rintro rfl ⟨rfl, starts⟩
      exact apart ⟨by rw [stripComments]; rfl, starts⟩
    rw [List.cons_append, stripComments_cons unopenedHere, ih apartRest, List.cons_append]
  | @comment opened inside after ends _ ih =>
    rw [stripComments_comment ends] at apart ⊢
    rw [List.append_assoc, stripComments_comment (cut?_append_right ends back), ih apart]

theorem stripComments_of_clean {text : Text} (clean : ¬ commentStart <:+: text) :
    stripComments text = text := by
  induction text with
  | nil => rw [stripComments]
  | cons c rest ih =>
    rw [stripComments_cons fun starts => clean starts.isInfix,
      ih fun found => clean (found.trans (List.suffix_cons c rest).isInfix)]

theorem stripComments_append {text rest : Text} (clean : ¬ commentStart <:+: text)
    (apart : ¬ (text.getLast? = some '/' ∧ rest.head? = some '*')) :
    stripComments (text ++ rest) = text ++ stripComments rest := by
  have stripped := stripComments_of_clean clean
  rw [stripComments_append_of_closed (commentsClosed_of_clean clean) (by rwa [stripped]), stripped]

/-! ### A block in a text -/

/-- A text in which no mark of a comment stands. -/
def Markless (text : Text) : Prop := ¬ commentStart <:+: text ∧ ¬ commentEnd <:+: text

instance (text : Text) : Decidable (Markless text) := inferInstanceAs (Decidable (_ ∧ _))

theorem Markless.stripComments_block {body : Text} (markless : Markless body) (rest : Text) :
    stripComments ('\x7b' :: body ++ '\x7d' :: rest) =
      '\x7b' :: body ++ '\x7d' :: stripComments rest := by
  have clean : ¬ commentStart <:+: '\x7b' :: body := by
    intro found
    rcases List.infix_cons_iff.mp found with starts | inside
    · exact absurd (List.cons_prefix_cons.mp starts).1 (by decide)
    · exact markless.1 inside
  have closer : ¬ commentStart <+: '\x7d' :: rest := fun starts =>
    absurd (List.cons_prefix_cons.mp starts).1 (by decide)
  rw [stripComments_append clean (fun both => absurd both.2 (by simp)), stripComments_cons closer]

theorem Markless.cut?_block {opened body : Text} (unended : cut? commentEnd opened = none)
    (markless : Markless body) (rest : Text) :
    cut? commentEnd (opened ++ '\x7b' :: (body ++ '\x7d' :: rest)) =
      (cut? commentEnd rest).map fun (before, after) =>
        (opened ++ '\x7b' :: (body ++ '\x7d' :: before), after) := by
  rw [cut?_append_of_none (by decide) unended,
    cut?_append_of_none (by decide) (cut?_eq_none_of_clean markless.2), Option.map_map]
  rfl

/-- The scan of a text goes on behind each character and each comment, and stops at one that is not
closed. -/
@[elab_as_elim]
theorem comment_induction {P : Text → Prop} (nil : P [])
    (plain : ∀ c rest, ¬ commentStart <+: c :: rest → P rest → P (c :: rest))
    (comment : ∀ opened inside after, cut? commentEnd opened = some (inside, after) → P after →
      P (commentStart ++ opened))
    (unended : ∀ opened, cut? commentEnd opened = none → P (commentStart ++ opened))
    (text : Text) : P text := by
  induction length : text.length using Nat.strongRecOn generalizing text with
  | ind size ih =>
    by_cases opens : commentStart <+: text
    · obtain ⟨opened, rfl⟩ := opens
      cases ends : cut? commentEnd opened with
      | none => exact unended opened ends
      | some parts =>
        obtain ⟨inside, after⟩ := parts
        have shorter := length_of_cut? ends
        rw [List.length_append, show commentStart.length = 2 from rfl] at length
        exact comment opened inside after ends (ih after.length (by omega) after rfl)
    · cases text with
      | nil => exact nil
      | cons c rest =>
        rw [List.length_cons] at length
        exact plain c rest opens (ih rest.length (by omega) rest rfl)

theorem stripComments_subset (text : Text) : ∀ c ∈ stripComments text, c ∈ text := by
  induction text using comment_induction with
  | nil => simp [stripComments]
  | plain c rest opens ih =>
    rw [stripComments_cons opens]
    exact fun d member => List.cons_subset_cons c ih member
  | comment opened inside after ends ih =>
    rw [stripComments_comment ends, cut?_eq_some ends]
    exact fun c member => List.mem_append_right _ (List.mem_append_right _ (ih c member))
  | unended opened ends =>
    rw [stripComments_unended ends]
    exact fun c member => member

/-- A block without comment marks stays as it is, or it stands in a comment that ends behind it and
is gone. Which of the two is the case, and what becomes of the rest, does not hang on what the block
holds. -/
theorem stripComments_slot (header rest : Text) :
    (∃ back, (rest = [] → back = []) ∧ ∀ body, Markless body →
      stripComments (header ++ '\x7b' :: (body ++ '\x7d' :: rest)) =
        stripComments header ++ '\x7b' :: (body ++ '\x7d' :: back)) ∨
    rest ≠ [] ∧ ∃ left, ∀ body, Markless body →
      stripComments (header ++ '\x7b' :: (body ++ '\x7d' :: rest)) = left := by
  induction header using comment_induction with
  | nil =>
    refine .inl ⟨stripComments rest, ?_, fun body markless => ?_⟩
    · rintro rfl
      rw [stripComments]
    · rw [stripComments, List.nil_append, List.nil_append]
      exact markless.stripComments_block rest
  | plain c header opens ih =>
    have step (body : Text) :
        stripComments (c :: header ++ '\x7b' :: (body ++ '\x7d' :: rest)) =
          c :: stripComments (header ++ '\x7b' :: (body ++ '\x7d' :: rest)) :=
      stripComments_cons (unopened_append opens fun _ both => absurd both.2 (by simp))
    simp only [step, stripComments_cons opens]
    rcases ih with ⟨back, ended, kept⟩ | ⟨solid, left, same⟩
    · exact .inl ⟨back, ended, fun body markless => by rw [kept body markless, List.cons_append]⟩
    · exact .inr ⟨solid, c :: left, fun body markless => by rw [same body markless]⟩
  | comment opened inside after ends ih =>
    have step (body : Text) :
        stripComments (commentStart ++ opened ++ '\x7b' :: (body ++ '\x7d' :: rest)) =
          stripComments (after ++ '\x7b' :: (body ++ '\x7d' :: rest)) := by
      rw [List.append_assoc, stripComments_comment (cut?_append_right ends _)]
    simp only [step, stripComments_comment ends]
    exact ih
  | unended opened ends =>
    -- The comment under way ends behind the block or nowhere.
    simp only [List.append_assoc]
    cases late : cut? commentEnd rest with
    | some parts =>
      obtain ⟨before, after⟩ := parts
      have solid : rest ≠ [] := by
        rintro rfl
        cases late
      refine .inr ⟨solid, stripComments after, fun body markless => ?_⟩
      have found := markless.cut?_block ends rest
      rw [late] at found
      exact stripComments_comment found
    | none =>
      refine .inl ⟨rest, id, fun body markless => ?_⟩
      have unended := markless.cut?_block ends rest
      rw [late] at unended
      rw [stripComments_unended unended, stripComments_unended ends, List.append_assoc]

end PageClip.Stylesheet
