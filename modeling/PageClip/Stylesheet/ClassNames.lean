import PageClip.Stylesheet.Comment
import PageClip.Stylesheet.Rule

/-!
# Classes of a stylesheet

The classes that the selectors of a stylesheet name, inside at-rules as well as
outside them.
-/

namespace PageClip.Stylesheet

open PageClip.Text

/-- The classes that a selector names, in order. A class starts with an ASCII letter. -/
def selectorClasses : Text → List Text
  | [] => []
  | '.' :: rest =>
    match rest with
    | c :: _ =>
      if c.isAlpha then rest.takeWhile isNamePart :: selectorClasses rest
      else selectorClasses rest
    | [] => []
  | _ :: rest => selectorClasses rest

/-- The part of a scanned selector behind the last statement in front of it; nothing where that
part belongs to an at-rule. -/
def ownSelector (selector : Text) : Text :=
  let own := afterLast ';' selector
  if (trimLeft own).head? == some '@' then [] else own

/-- The classes that the selectors of a stylesheet name, each once, in order of first use. -/
def classNames (css : Text) : List Text :=
  ((scanRules (stripComments css)).flatMap fun (selector, _) =>
    selectorClasses (ownSelector selector)).eraseDups

end PageClip.Stylesheet
