import PageClip.Text.Basic
import PageClip.Text.Interval
import PageClip.Text.WordTable

/-!
# Word characters

Letters and numerals of every script and the underscore; names of classes and
custom properties are made of them and of hyphens.
-/

namespace PageClip.Text

def isWord (c : Char) : Bool :=
  if c.toNat < 0x80 then c.isAlphanum || c == '_' else within wordBounds c.toNat

def isNamePart (c : Char) : Bool := isWord c || c == '-'

theorem isWord_of_isAlphanum {c : Char} (h : c.isAlphanum = true) : isWord c = true := by
  unfold isWord
  split
  · simp [h]
  · next big =>
    exfalso
    have small : c.toNat < 0x80 := by
      rcases (Bool.or_eq_true ..).mp h with letter | digit
      · rcases (Bool.or_eq_true ..).mp letter with upper | lower
        · exact Nat.lt_of_le_of_lt (of_decide_eq_true upper).2 (by decide)
        · have last := ((Bool.and_eq_true ..).mp lower).2
          exact Nat.lt_of_le_of_lt (of_decide_eq_true last) (by decide)
      · have last := ((Bool.and_eq_true ..).mp digit).2
        exact Nat.lt_of_le_of_lt (of_decide_eq_true last) (by decide)
    exact big small

end PageClip.Text
