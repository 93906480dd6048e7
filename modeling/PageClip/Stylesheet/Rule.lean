import PageClip.Stylesheet.Declaration

/-!
# Flat rules

A flat rule is a selector and a block without inner blocks. Rules are found
wherever one stands, whatever surrounds it.
-/

namespace PageClip.Stylesheet

open PageClip.Text

/-- A selector with its declarations in order. -/
structure Rule where
  selector : Text
  declarations : List Text
  deriving DecidableEq, Repr

/-- The selectors and bodies of the flat rules behind a selector that is being read, last character
first. -/
def scanSelector (selector : Text) : Text → List (Text × Text)
  | [] => []
  | '\x7d' :: rest => scanSelector [] rest
  | '\x7b' :: rest => if selector.isEmpty then scanSelector [] rest else scanBody selector [] rest
  | c :: rest => scanSelector (c :: selector) rest
where
  /-- The same inside a body that is being read. A further block makes the body a selector. -/
  scanBody (selector body : Text) : Text → List (Text × Text)
    | [] => []
    | '\x7d' :: rest => (selector.reverse, body.reverse) :: scanSelector [] rest
    | '\x7b' :: rest => if body.isEmpty then scanSelector [] rest else scanBody body [] rest
    | c :: rest => scanBody selector (c :: body) rest

/-- The selectors and bodies of the flat rules of a text, in order. -/
def scanRules (css : Text) : List (Text × Text) := scanSelector [] css

/-- The rule of a selector and a body, unless the selector is blank. -/
def ruleOf? (selector body : Text) : Option Rule :=
  if (trim selector).isEmpty then none else some ⟨trim selector, splitDeclarations body⟩

/-- The flat rules of a text, in order. -/
def parseRules (css : Text) : List Rule :=
  (scanRules css).filterMap fun (selector, body) => ruleOf? selector body

def dropAttributeTests : Text → Text
  | [] => []
  | '[' :: rest =>
    match _ : cut? [']'] rest with
    | some (_, after) => dropAttributeTests after
    | none => '[' :: rest
  | c :: rest => c :: dropAttributeTests rest
termination_by selector => selector.length
decreasing_by
  · have := length_of_cut? ‹_›
    simp only [List.length_cons]; omega
  · simp

def isPseudoSelector (selector : Text) : Bool := (dropAttributeTests selector).contains ':'

namespace Rule

def isPseudo (rule : Rule) : Bool := isPseudoSelector rule.selector

/-- Whether a selector starts with a class that ends there or before a blank, a colon or a point. -/
def targets (className : Text) (rule : Rule) : Bool :=
  let target := '.' :: className
  rule.selector == target ||
    [' ', ':', '.'].any fun boundary => (target ++ [boundary]).isPrefixOf rule.selector

end Rule

/-- The first rule that targets a class. -/
def findRuleIn? (className : Text) (rules : List Rule) : Option Rule :=
  rules.find? (Rule.targets className)

end PageClip.Stylesheet
