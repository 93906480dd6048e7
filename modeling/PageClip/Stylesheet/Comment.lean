import PageClip.Text.Basic

/-!
# Comments

A comment runs from its opening mark to the nearest closing mark. One that is
never closed is text like any other.
-/

namespace PageClip.Stylesheet

def commentEnd : Text := ['*', '/']

def stripComments : Text → Text
  | [] => []
  | '/' :: '*' :: rest =>
    match _ : Text.cut? commentEnd rest with
    | some (_, after) => stripComments after
    | none => '/' :: '*' :: rest
  | c :: rest => c :: stripComments rest
termination_by text => text.length
decreasing_by
  · have := Text.length_of_cut? ‹_›
    simp only [List.length_cons]; omega
  · simp

end PageClip.Stylesheet
