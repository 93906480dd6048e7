import PageClip.Text.Basic
import PageClip.Text.Interval
import PageClip.Text.CasedTable
import PageClip.Text.LowercaseTable

/-!
# Lower case

Every letter of every script is lowered; a capital sigma becomes the final form
at the end of a word. On ASCII letters `lower` is `Char.toLower`
(`lower_of_ascii`).
-/

namespace PageClip.Text

def lowerChar (c : Char) : Text :=
  if c.toNat < 0x80 then [c.toLower]
  else if c = 'İ' then ['i', '\u0307']
  else
    match caseRuns.find? fun run =>
        run.first ≤ c.toNat && c.toNat ≤ run.last && (c.toNat - run.first) % run.stride == 0 with
    | some run => [Char.ofNat (c.toNat + run.shift).toNat]
    | none => [c]

/-- Whether the nearest character that a search for case does not skip has case. -/
def touchesCased (text : Text) : Bool :=
  match text.find? fun c => !within caselessMarkBounds c.toNat with
  | some c => within casedBounds c.toNat
  | none => false

/-- Lowers a text; `before` is what has been read, last character first. -/
def lowerFrom (before : Text) : Text → Text
  | [] => []
  | c :: rest =>
    (if c = 'Σ' then
      [if touchesCased before && !touchesCased rest then 'ς' else 'σ']
    else lowerChar c) ++ lowerFrom (c :: before) rest

def lower (text : Text) : Text := lowerFrom [] text

theorem lowerFrom_of_ascii {text : Text} (before : Text) (h : ∀ c ∈ text, c.toNat < 0x80) :
    lowerFrom before text = text.map Char.toLower := by
  induction text generalizing before with
  | nil => rfl
  | cons c rest ih =>
    have small := h c (by simp)
    have plain : c ≠ 'Σ' := by rintro rfl; exact absurd small (by decide)
    simp [lowerFrom, plain, lowerChar, small, ih (c :: before) fun d hd => h d (by simp [hd])]

theorem lower_of_ascii {text : Text} (h : ∀ c ∈ text, c.toNat < 0x80) :
    lower text = text.map Char.toLower :=
  lowerFrom_of_ascii [] h

end PageClip.Text

namespace PageClip

def lowercase (s : String) : String := String.ofList (Text.lower s.toList)

end PageClip
