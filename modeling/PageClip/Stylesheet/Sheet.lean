import PageClip.Event
import PageClip.Stylesheet.AtRule
import PageClip.Stylesheet.Comment
import PageClip.Stylesheet.RootBlock
import PageClip.Stylesheet.Rule

/-!
# Stylesheets

Comments go first, then the root blocks, then the at-rules; flat rules are read
from what is left.
-/

namespace PageClip

open Stylesheet

structure Stylesheet where
  rules : List Rule
  atRules : List AtRule
  values : Variables
  deriving DecidableEq, Repr

namespace Stylesheet

/-- What is told when a root block is never closed. -/
def RootSplit.events (split : RootSplit) : List Event := split.unclosed.toList.map .unclosedRoot

/-- What is told when an at-rule is never closed. -/
def AtSplit.events (split : AtSplit) : List Event := split.unclosed.toList.map .unclosedAtRule

def parse (css : Text) : Stylesheet :=
  let roots := splitRoot (stripComments css)
  let split := splitAtRules roots.remainder
  { rules := parseRules split.plain
    atRules := split.atRules
    values := roots.values }

def parseEvents (css : Text) : List Event :=
  let roots := splitRoot (stripComments css)
  roots.events ++ (splitAtRules roots.remainder).events

/-- The first rule outside at-rules that targets a class. -/
def findRule? (sheet : Stylesheet) (className : Text) : Option Rule :=
  Stylesheet.findRuleIn? className sheet.rules

end Stylesheet

end PageClip
