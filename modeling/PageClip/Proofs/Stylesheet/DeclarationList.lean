import PageClip.Proofs.Stylesheet.Declaration

/-!
# Lists of declarations

Of the declarations of a body only the last can leave a parenthesis open, so they
read back when they are joined again: `splitDeclarations_stable`. The lists that
do so are exactly those that some body splits into.
-/

namespace PageClip.Stylesheet

open PageClip.Text

/-! ### Bodies, declaration by declaration -/

/-- A text has its first semicolon outside parentheses somewhere, or has none. -/
theorem unparted_or_parts (depth : Nat) (text : Text) :
    Unparted depth text ∨ ∃ front rest, text = front ++ ';' :: rest ∧ Unparted depth front ∧
      openAfter depth front = 0 := by
  induction text generalizing depth with
  | nil =>
    left
    intro before found
    simp at found
  | cons c text ih =>
    by_cases ends : c = ';' ∧ depth = 0
    · obtain ⟨rfl, rfl⟩ := ends
      refine .inr ⟨[], text, rfl, ?_, rfl⟩
      intro before found
      simp at found
    have extend {front : Text} (later : Unparted (nesting depth c) front) :
        Unparted depth (c :: front) := by
      intro before found
      cases before with
      | nil =>
        have here := (List.cons_prefix_cons.mp found).1
        exact fun outside => ends ⟨here.symm, outside⟩
      | cons d before =>
        obtain ⟨rfl, inRest⟩ := List.cons_prefix_cons.mp found
        exact later before inRest
    rcases ih (nesting depth c) with unparted | ⟨front, rest, rfl, unparted, closed⟩
    · exact .inl (extend unparted)
    · exact .inr ⟨c :: front, rest, rfl, extend unparted, closed⟩

theorem body_induction {motive : Text → Prop} (last : ∀ text, Unparted 0 text → motive text)
    (parts : ∀ front rest, Unparted 0 front → openAfter 0 front = 0 → motive rest →
      motive (front ++ ';' :: rest))
    (body : Text) : motive body := by
  induction length : body.length using Nat.strongRecOn generalizing body with
  | ind size ih =>
    rcases unparted_or_parts 0 body with unparted | ⟨front, rest, rfl, unparted, closed⟩
    · exact last body unparted
    · have shorter : rest.length < size := by
        rw [← length, List.length_append, List.length_cons]
        omega
      exact parts front rest unparted closed (ih rest.length shorter rest rfl)

/-! ### Blanks around a declaration -/

section Blank

variable {gap : Text} (blank : AllBlank gap)

include blank

theorem openAfter_of_blank (depth : Nat) : openAfter depth gap = depth :=
  openAfter_of_free depth ⟨blank.not_mem (by decide), blank.not_mem (by decide)⟩

theorem openAfter_blank_append (depth : Nat) (text : Text) :
    openAfter depth (gap ++ text) = openAfter depth text := by
  rw [openAfter_append, openAfter_of_blank blank]

theorem unparted_blank_append {depth : Nat} {text : Text} (unparted : Unparted depth text) :
    Unparted depth (gap ++ text) := by
  apply unparted_append (blank.not_mem (by decide))
  rwa [openAfter_of_blank blank]

theorem splitDeclarations_blank_append (text : Text) :
    splitDeclarations (gap ++ text) = splitDeclarations text := by
  have alone {front : Text} (unparted : Unparted 0 front) :
      splitDeclarations (gap ++ front) = splitDeclarations front := by
    rw [splitDeclarations_unparted (unparted_blank_append blank unparted),
      splitDeclarations_unparted unparted, trim_blank_append blank]
  rcases unparted_or_parts 0 text with unparted | ⟨front, rest, rfl, unparted, closed⟩
  · exact alone unparted
  · rw [← List.append_assoc, splitDeclarations_append closed, ← alone unparted]
    apply splitDeclarations_append
    rwa [openAfter_blank_append blank]

end Blank

theorem openAfter_trim (depth : Nat) (text : Text) :
    openAfter depth (trim text) = openAfter depth text := by
  obtain ⟨front, back, before, behind, eq⟩ := exists_trim_append text
  conv_rhs => rw [eq]
  rw [openAfter_append, openAfter_blank_append before, openAfter_of_blank behind]

theorem Unparted.trim {text : Text} (unparted : Unparted 0 text) : Unparted 0 (trim text) := by
  obtain ⟨front, back, before, -, eq⟩ := exists_trim_append text
  rintro piece ⟨rest, found⟩
  rw [← found] at eq
  have whole := unparted (front ++ piece) ⟨rest ++ back, by rw [eq]; simp⟩
  rwa [openAfter_blank_append before] at whole

/-! ### What a body splits into -/

/-- A declaration as it comes out of a body. It may leave parentheses open. -/
structure IsSplit (text : Text) : Prop where
  trimmed : trim text = text
  solid : text ≠ []
  unparted : Unparted 0 text

/-- Declarations of which only the last may leave parentheses open. -/
inductive Declarations : List Text → Prop
  | nil : Declarations []
  | last {text : Text} : IsSplit text → Declarations [text]
  | cons {text : Text} {rest : List Text} : IsSplit text → openAfter 0 text = 0 →
    Declarations rest → Declarations (text :: rest)

theorem IsSplit.of_trim {text : Text} (unparted : Unparted 0 text) (solid : trim text ≠ []) :
    IsSplit (trim text) :=
  ⟨trim_trim text, solid, unparted.trim⟩

theorem IsSplit.splitDeclarations {text : Text} (split : IsSplit text) :
    splitDeclarations text = [text] := by
  rw [splitDeclarations_unparted split.unparted, split.trimmed, if_neg split.solid]

theorem declarations_splitDeclarations (body : Text) : Declarations (splitDeclarations body) := by
  induction body using body_induction with
  | last text unparted =>
    rw [splitDeclarations_unparted unparted]
    split
    · exact .nil
    · next solid => exact .last (.of_trim unparted solid)
  | parts front rest unparted closed ih =>
    rw [splitDeclarations_append closed, splitDeclarations_unparted unparted]
    split
    · exact ih
    · next solid => exact .cons (.of_trim unparted solid) (by rwa [openAfter_trim]) ih

namespace Declarations

theorem isSplit {declarations : List Text} (list : Declarations declarations) :
    ∀ declaration ∈ declarations, IsSplit declaration := by
  induction list with
  | nil => simp
  | last split => simpa using split
  | cons split _ _ ih => exact List.forall_mem_cons.mpr ⟨split, ih⟩

theorem splitDeclarations_intercalate {declarations : List Text}
    (list : Declarations declarations) :
    splitDeclarations ([';', ' '].intercalate declarations) = declarations := by
  induction list with
  | nil => rfl
  | last split => rw [List.intercalate_singleton, split.splitDeclarations]
  | @cons text rest split closed _ ih =>
    cases rest with
    | nil => rw [List.intercalate_singleton, split.splitDeclarations]
    | cons next rest =>
      rw [List.intercalate_cons_cons, List.append_assoc]
      show splitDeclarations (text ++ ';' :: ([' '] ++ [';', ' '].intercalate (next :: rest))) = _
      rw [splitDeclarations_append closed, split.splitDeclarations,
        splitDeclarations_blank_append (by decide), ih]
      rfl

end Declarations

/-- A list of declarations reads back exactly if some body splits into it. -/
theorem splitDeclarations_intercalate_iff {declarations : List Text} :
    splitDeclarations ([';', ' '].intercalate declarations) = declarations ↔
      Declarations declarations := by
  constructor
  · intro same
    rw [← same]
    exact declarations_splitDeclarations _
  · exact Declarations.splitDeclarations_intercalate

/-- What a body splits into does not split any further and reads back when it is joined. A body
splits at every semicolon outside parentheses, and nowhere else. -/
theorem splitDeclarations_stable (body : Text) :
    (∀ declaration ∈ splitDeclarations body, trim declaration = declaration ∧ declaration ≠ [] ∧
        splitDeclarations declaration = [declaration]) ∧
      splitDeclarations ([';', ' '].intercalate (splitDeclarations body)) =
        splitDeclarations body ∧
      (openAfter 0 body = 0 → ∀ rest, splitDeclarations (body ++ ';' :: rest) =
        splitDeclarations body ++ splitDeclarations rest) ∧
      (Unparted 0 body → splitDeclarations body = if trim body = [] then [] else [trim body]) := by
  have list := declarations_splitDeclarations body
  refine ⟨?_, splitDeclarations_intercalate_iff.mpr list, splitDeclarations_append,
    splitDeclarations_unparted⟩
  intro declaration member
  have split := list.isSplit declaration member
  exact ⟨split.trimmed, split.solid, split.splitDeclarations⟩

/-- A closing parenthesis too many, a blank declaration, a semicolon in parentheses, and an opening
parenthesis that is never closed. -/
def oddBody : Text := " a: b); ;c: url(x;y) ; d: (e; f ".toList

def oddDeclarations : List Text := ["a: b)".toList, "c: url(x;y)".toList, "d: (e; f".toList]

theorem splitDeclarations_stable_oddBody :
    splitDeclarations oddBody = oddDeclarations ∧
      "d: (e; f".toList ∈ splitDeclarations oddBody ∧
      splitDeclarations "d: (e; f".toList = ["d: (e; f".toList] ∧
      splitDeclarations "a: b); c: url(x;y); d: (e; f".toList = oddDeclarations ∧
      openAfter 0 "g: h)(i;j)".toList = 0 ∧ Unparted 0 "g: h)(i;j)".toList ∧
      splitDeclarations ("g: h)(i;j)".toList ++ ';' :: oddBody) =
        "g: h)(i;j)".toList :: oddDeclarations := by
  have split : splitDeclarations oddBody = oddDeclarations := by decide
  have member : "d: (e; f".toList ∈ splitDeclarations oddBody := by rw [split]; decide
  have closed : openAfter 0 "g: h)(i;j)".toList = 0 := by decide
  have unparted : Unparted 0 "g: h)(i;j)".toList := by decide
  obtain ⟨alone, joined, -, -⟩ := splitDeclarations_stable oddBody
  obtain ⟨-, -, append, single⟩ := splitDeclarations_stable "g: h)(i;j)".toList
  refine ⟨split, member, (alone _ member).2.2, ?_, closed, unparted, ?_⟩
  · rw [split] at joined
    exact joined
  · rw [append closed, single unparted, split]
    decide

end PageClip.Stylesheet
