import PageClip.Text.Basic

/-!
# Matching without regard to case

A pattern is written in lower-case ASCII. Besides the capital, `i`, `s` and `k`
match the letters of other alphabets that fold to them.
-/

namespace PageClip.Text

/-- Whether `c` is the pattern's letter in either case. -/
def sameLetter (letter c : Char) : Bool :=
  letter == c.toLower ||
  match letter with
  | 'i' => c == 'İ' || c == 'ı'
  | 's' => c == 'ſ'
  | 'k' => c == '\u212a'
  | _ => false

/-- What follows `pattern` at the start of the text, where it stands there. -/
def dropCaseless? : Text → Text → Option Text
  | [], text => some text
  | _ :: _, [] => none
  | letter :: pattern, c :: text => if sameLetter letter c then dropCaseless? pattern text else none

theorem length_of_dropCaseless? {pattern text rest : Text}
    (h : dropCaseless? pattern text = some rest) : text.length = pattern.length + rest.length := by
  fun_induction dropCaseless? pattern text with
  | case1 text => simp_all
  | case2 => simp at h
  | case3 letter pattern c text same ih => simp [ih h]; omega
  | case4 => simp at h

end PageClip.Text
