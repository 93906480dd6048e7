import PageClip.Conversion
import PageClip.Proofs.Stylesheet.Comment

/-!
# Comments in styles

Of a stylesheet only what is left without comments is read. A comment can be put in anywhere
outside comments, unless it splits or makes a mark, and nothing that is made of the stylesheet
changes (`stripComments_comment_between`).
-/

namespace PageClip

open Text

namespace Stylesheet

def comment (inside : Text) : Text := commentStart ++ inside ++ commentEnd

/-- The first half of the closing mark may end what stands in front of it. -/
theorem cut?_commentEnd {inside : Text} (unended : ¬ commentEnd <:+: inside) (back : Text) :
    cut? commentEnd (inside ++ (commentEnd ++ back)) = some (inside, back) := by
  induction inside with
  | nil =>
    rw [List.nil_append, commentEnd, List.cons_append, cut?, if_pos (by simp)]
    simp
  | cons c inside ih =>
    have later := ih fun found => unended (found.trans (List.suffix_cons c inside).isInfix)
    have unmarked : ¬ commentEnd <+: c :: (inside ++ (commentEnd ++ back)) := by
      intro starts
      obtain ⟨rfl, next⟩ := List.cons_prefix_cons.mp starts
      cases inside with
      | nil => exact absurd (List.cons_prefix_cons.mp next).1 (by decide)
      | cons d inside =>
        obtain ⟨rfl, -⟩ := List.cons_prefix_cons.mp next
        exact unended ⟨[], inside, rfl⟩
    rw [List.cons_append, cut?_cons unmarked, later]
    rfl

theorem stripComments_comment_append {inside : Text} (unended : ¬ commentEnd <:+: inside)
    (back : Text) : stripComments (comment inside ++ back) = stripComments back := by
  rw [comment, List.append_assoc, List.append_assoc]
  exact stripComments_comment (cut?_commentEnd unended back)

/-- A text ends as it does without its comments, or with the end of one. -/
theorem CommentsClosed.getLast? {text : Text} (closed : CommentsClosed text) :
    text.getLast? = (stripComments text).getLast? ∨ text.getLast? = some '/' := by
  induction closed with
  | nil => exact .inl (by rw [stripComments])
  | @plain c rest unopened _ ih =>
    rw [stripComments_cons unopened]
    cases rest with
    | nil => exact .inl (by rw [stripComments])
    | cons d rest =>
      rw [List.getLast?_cons_cons]
      refine ih.imp_left fun same => ?_
      calc (d :: rest).getLast? = some (rest.getLast?.getD d) := List.getLast?_cons
        _ = some ((stripComments (d :: rest)).getLast?.getD c) := by
          rw [← same, List.getLast?_cons, Option.getD_some]
        _ = (c :: stripComments (d :: rest)).getLast? := List.getLast?_cons.symm
  | @comment opened inside after ends _ ih =>
    rw [stripComments_comment ends, cut?_eq_some ends]
    cases after with
    | nil =>
      refine .inr ?_
      rw [List.append_nil, ← List.append_assoc]
      exact List.getLast?_append_of_ne_nil _ (List.cons_ne_nil _ _)
    | cons c after =>
      rwa [← List.append_assoc, List.getLast?_append_of_ne_nil _ (List.cons_ne_nil c after)]

theorem CommentsClosed.stripComments_append {front back : Text} (closed : CommentsClosed front)
    (apart : ¬ (front.getLast? = some '/' ∧ back.head? = some '*')) :
    stripComments (front ++ back) = stripComments front ++ stripComments back := by
  refine stripComments_append_of_closed closed fun ⟨ends, starts⟩ => apart ⟨?_, starts⟩
  rcases closed.getLast? with same | slash
  · rw [same, ends]
  · exact slash

end Stylesheet

/-! ### What is made of a stylesheet -/

open Stylesheet

section

variable {css other : String} (same : stripComments css.toList = stripComments other.toList)
include same

theorem compileStyles_of_stripComments (responsive : Bool) (classNames : List String) :
    compileStyles responsive css classNames = compileStyles responsive other classNames := by
  have parsed : Stylesheet.parse css.toList = Stylesheet.parse other.toList := by
    rw [parse, parse, same]
  have told : parseEvents css.toList = parseEvents other.toList := by
    rw [parseEvents, parseEvents, same]
  rw [compileStyles, compileStyles, compileResponsive, compileResponsive, compileBase, compileBase,
    parsed, told]

theorem stylesheetClasses_of_stripComments : stylesheetClasses css = stylesheetClasses other := by
  rw [stylesheetClasses, stylesheetClasses, classNames, classNames, same]

theorem convert_of_stripComments (settings : Settings) (html js : String) :
    convert settings html css js = convert settings html other js := by
  rw [convert, convert, stylesheetClasses_of_stripComments same,
    compileStyles_of_stripComments same]

end

/-- A comment between two texts is as good as none, however malformed the second is: the texts
without comments are the same, and so are the styles of any classes, the classes that are found and
whole conversions, down to what is told. -/
theorem stripComments_comment_between {front inside back : Text} (closed : CommentsClosed front)
    (unended : ¬ commentEnd <:+: inside)
    (apart : ¬ (front.getLast? = some '/' ∧ back.head? = some '*')) :
    let commented := String.ofList (front ++ comment inside ++ back)
    let bare := String.ofList (front ++ back)
    stripComments (front ++ comment inside ++ back) = stripComments (front ++ back) ∧
      (∀ responsive classNames,
        compileStyles responsive commented classNames = compileStyles responsive bare classNames) ∧
      stylesheetClasses commented = stylesheetClasses bare ∧
      ∀ settings html js, convert settings html commented js = convert settings html bare js := by
  intro commented bare
  have apartComment : ¬ (front.getLast? = some '/' ∧ (comment inside ++ back).head? = some '*') :=
    fun both => absurd both.2 (by simp [comment, commentStart])
  have stripped : stripComments (front ++ comment inside ++ back) = stripComments (front ++ back) := by
    calc stripComments (front ++ comment inside ++ back)
        = stripComments front ++ stripComments (comment inside ++ back) := by
          rw [List.append_assoc, closed.stripComments_append apartComment]
      _ = stripComments front ++ stripComments back := by
          rw [stripComments_comment_append unended]
      _ = stripComments (front ++ back) := (closed.stripComments_append apart).symm
  have same : stripComments commented.toList = stripComments bare.toList := by
    rwa [String.toList_ofList, String.toList_ofList]
  exact ⟨stripped, compileStyles_of_stripComments same, stylesheetClasses_of_stripComments same,
    convert_of_stripComments same⟩

/-- A text that ends in a slash, behind a comment of its own. -/
def slashedFront : Text := "/*\x7b*/.a \x7b margin: 1px/".toList

/-- The inside of a comment: braces, an opening mark and a star at the end. -/
def crowdedInside : Text := " 2px \x7d .b \x7b /* **".toList

/-- A text in which a comment is left open. -/
def openBack : Text := "2px \x7d /* .c \x7b\x7d".toList

theorem stripComments_comment_between_slashed :
    CommentsClosed slashedFront ∧ ¬ commentEnd <:+: crowdedInside ∧
      ¬ (slashedFront.getLast? = some '/' ∧ openBack.head? = some '*') ∧
      stripComments (slashedFront ++ comment crowdedInside ++ openBack) =
        ".a \x7b margin: 1px/2px \x7d /* .c \x7b\x7d".toList ∧
      stylesheetClasses (String.ofList (slashedFront ++ comment crowdedInside ++ openBack)) =
        ["a", "c"] := by
  have ends : cut? commentEnd "\x7b*/.a \x7b margin: 1px/".toList =
      some (['\x7b'], ".a \x7b margin: 1px/".toList) := by decide
  have closed : CommentsClosed slashedFront :=
    .comment ends (commentsClosed_of_clean (by decide))
  have unended : ¬ commentEnd <:+: crowdedInside := by decide
  have apart : ¬ (slashedFront.getLast? = some '/' ∧ openBack.head? = some '*') := by decide
  obtain ⟨stripped, -, classes, -⟩ := stripComments_comment_between closed unended apart
  rw [stripped, classes]
  refine ⟨closed, unended, apart, ?_, ?_⟩
  · decide +kernel
  · decide +kernel

end PageClip
