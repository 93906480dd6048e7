import PageClip.Stylesheet.Delimiter
import PageClip.Text.Blank
import PageClip.Text.Lowercase
import PageClip.Text.Word

/-!
# At-rules

At-rules with a block are taken out of the plain text around them; statements
such as imports are dropped. One whose block is never closed swallows the rest.
-/

namespace PageClip.Stylesheet

open PageClip.Text

structure AtRule where
  name : Text
  prelude : Text
  body : Text
  text : Text
  deriving DecidableEq, Repr

/-- The at-rule of a header, which starts behind the at sign, and a body. -/
def AtRule.make (header body : Text) : AtRule where
  name := lower (header.takeWhile isNamePart)
  prelude := trim (header.dropWhile isNamePart)
  body := body
  text := '@' :: header ++ '\x7b' :: body ++ ['\x7d']

structure AtSplit where
  plain : Text
  /-- The at-rules with a block, in order. -/
  atRules : List AtRule
  /-- Where an at-rule starts whose block is never closed. -/
  unclosed : Option Nat
  deriving DecidableEq, Repr

/-- A character of an at-rule in front of its block or its end. -/
def inHeader (c : Char) : Bool := c ≠ '\x7b' && c ≠ ';'

/-- Takes apart the text from `offset` on; `depth` counts the open blocks around it. -/
def splitAtFrom (offset depth : Nat) : Text → AtSplit
  | [] => ⟨[], [], none⟩
  | c :: rest =>
    let keep (depth : Nat) : AtSplit :=
      let split := splitAtFrom (offset + 1) depth rest
      { split with plain := c :: split.plain }
    if c = '\x7b' then keep (depth + 1)
    else if c = '\x7d' then keep (depth - 1)
    else if c = '@' && depth == 0 then
      match _ : rest.dropWhile inHeader with
      | [] => keep depth
      | ends :: tail =>
        if ends = ';' then
          splitAtFrom (offset + (rest.length + 1 - tail.length)) 0 tail
        else
          match _ : Delimiter.brace.enclosed 0 tail with
          | none => ⟨[], [], some offset⟩
          | some (body, after) =>
            let split := splitAtFrom (offset + (rest.length + 1 - after.length)) 0 after
            { split with
              atRules := AtRule.make (rest.takeWhile inHeader) body :: split.atRules }
    else keep depth
termination_by css => css.length
decreasing_by
  all_goals try simp only [List.length_cons]
  all_goals try omega
  all_goals
    have shorter := (List.dropWhile_sublist inHeader (l := rest)).length_le
    rw [‹rest.dropWhile inHeader = _›] at shorter
    simp only [List.length_cons] at shorter
  · omega
  · have := Delimiter.length_of_enclosed ‹_›
    omega

def splitAtRules (css : Text) : AtSplit := splitAtFrom 0 0 css

end PageClip.Stylesheet
