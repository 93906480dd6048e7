import PageClip.Text.Basic

/-!
# Blanks

The space characters of Unicode together with the four separators U+001C to
U+001F. `trim` takes them off both ends, and `words` are what stands between them.
-/

namespace PageClip.Text

def isBlank (c : Char) : Bool :=
  let n := c.toNat
  (0x09 ≤ n && n ≤ 0x0d) || (0x1c ≤ n && n ≤ 0x20) || n == 0x85 || n == 0xa0 || n == 0x1680 ||
  (0x2000 ≤ n && n ≤ 0x200a) || n == 0x2028 || n == 0x2029 || n == 0x202f || n == 0x205f ||
  n == 0x3000

theorem isBlank_of_isWhitespace {c : Char} (h : c.isWhitespace = true) : isBlank c = true := by
  simp only [Char.isWhitespace, Bool.or_eq_true, decide_eq_true_eq] at h
  rcases h with ((rfl | rfl) | rfl) | rfl <;> decide

def trimLeft (text : Text) : Text := text.dropWhile isBlank

def trimRight (text : Text) : Text := (text.reverse.dropWhile isBlank).reverse

def trim (text : Text) : Text := trimRight (trimLeft text)

/-- Collects the maximal runs without a blank; `run` is the one being read, last character first. -/
def wordsFrom (run : Text) : Text → List Text
  | [] => if run.isEmpty then [] else [run.reverse]
  | c :: rest =>
    if isBlank c then
      if run.isEmpty then wordsFrom [] rest else run.reverse :: wordsFrom [] rest
    else wordsFrom (c :: run) rest

/-- The maximal runs without a blank, in order. -/
def words (text : Text) : List Text := wordsFrom [] text

theorem length_trim_le (text : Text) : (trim text).length ≤ text.length := by
  have left := (List.dropWhile_sublist isBlank (l := text)).length_le
  have right := (List.dropWhile_sublist isBlank (l := (trimLeft text).reverse)).length_le
  simp only [trim, trimRight, trimLeft, List.length_reverse] at right ⊢
  omega

@[simp] theorem trimLeft_nil : trimLeft [] = [] := rfl

@[simp] theorem trim_nil : trim [] = [] := rfl

end PageClip.Text
