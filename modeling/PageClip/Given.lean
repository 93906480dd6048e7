import PageClip.Fault

/-!
# Given values

What a caller hands over where a text is wanted.
-/

namespace PageClip

inductive Given where
  | missing
  | text (value : String)
  | other (kind : String)
  deriving DecidableEq, Repr

/-- The text that was given, or why it cannot be used as `argument`. -/
def Given.require (argument : String) : Given → Except Fault String
  | .missing => .error (.missing argument)
  | .text value => .ok value
  | .other kind => .error (.notText argument kind)

@[simp] theorem Given.require_text (argument value : String) :
    (Given.text value).require argument = .ok value := rfl

inductive GivenNames where
  | missing
  | text
  | names (values : List String)
  | other
  deriving DecidableEq, Repr

def GivenNames.require : GivenNames → Except Fault (List String)
  | .missing => .error .missingClassNames
  | .text => .error .classNamesAsText
  | .names values => .ok values
  | .other => .error .notAList

end PageClip
