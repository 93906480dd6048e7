import PageClip.Stylesheet.Sheet

/-!
# Advanced styles

What a class style cannot express is passed on as text: rules with
pseudo-selectors, rebuilt from their declarations, and then media and keyframes
blocks as written.
-/

namespace PageClip.Stylesheet

def advancedNames : List Text :=
  ["media", "keyframes", "-webkit-keyframes", "-moz-keyframes", "-o-keyframes"].map String.toList

def paragraphs (parts : List Text) : Text := ['\n', '\n'].intercalate parts

def Rule.format (rule : Rule) : Text :=
  ['\n'].intercalate
    ((rule.selector ++ [' ', '\x7b']) ::
      rule.declarations.map (fun declaration => ' ' :: ' ' :: declaration ++ [';']) ++
      [['\x7d']])

def advanced (sheet : Stylesheet) : Text :=
  paragraphs
    ((sheet.rules.filter Rule.isPseudo).map Rule.format ++
      (sheet.atRules.filter fun rule => advancedNames.contains rule.name).map (·.text))

end PageClip.Stylesheet
