import PageClip.Text.Basic

/-!
# Matching delimiters

`enclosed` finds the closer that belongs to an opener which has just been read.
`enclosed_eq_some` says that what it returns makes up the text.
-/

namespace PageClip.Stylesheet

structure Delimiter where
  opener : Char
  closer : Char
  deriving DecidableEq, Repr

namespace Delimiter

def brace : Delimiter := ⟨'\x7b', '\x7d'⟩

def paren : Delimiter := ⟨'(', ')'⟩

/-- Splits the text behind an opener into what it encloses and what follows its closer; `depth`
counts the further openers that are still to be closed. -/
def enclosed (d : Delimiter) (depth : Nat) : Text → Option (Text × Text)
  | [] => none
  | c :: rest =>
    if c = d.closer then
      match depth with
      | 0 => some ([], rest)
      | depth + 1 => (enclosed d depth rest).map fun (inside, after) => (c :: inside, after)
    else
      (enclosed d (if c = d.opener then depth + 1 else depth) rest).map
        fun (inside, after) => (c :: inside, after)

theorem enclosed_eq_some {d : Delimiter} {depth : Nat} {text inside after : Text}
    (h : d.enclosed depth text = some (inside, after)) :
    text = inside ++ d.closer :: after := by
  induction text generalizing depth inside with
  | nil => simp [enclosed] at h
  | cons c rest ih =>
    simp only [enclosed] at h
    split at h
    · next closes =>
      cases depth with
      | zero =>
        obtain ⟨rfl, rfl⟩ := Prod.mk.inj (Option.some.inj h)
        simp [closes]
      | succ depth =>
        obtain ⟨⟨inside', after'⟩, found, eq⟩ := Option.map_eq_some_iff.mp h
        obtain ⟨rfl, rfl⟩ := Prod.mk.inj eq
        simp [ih found]
    · obtain ⟨⟨inside', after'⟩, found, eq⟩ := Option.map_eq_some_iff.mp h
      obtain ⟨rfl, rfl⟩ := Prod.mk.inj eq
      simp [ih found]

theorem length_of_enclosed {d : Delimiter} {depth : Nat} {text inside after : Text}
    (h : d.enclosed depth text = some (inside, after)) :
    text.length = inside.length + 1 + after.length := by
  simp [enclosed_eq_some h]; omega

end Delimiter

end PageClip.Stylesheet
