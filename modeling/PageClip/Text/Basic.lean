/-!
# Text as a list of characters

Everything that is scanned is a `Text`. `cut?` splits a text at a mark, and
`cut?_eq_some` says that the three parts make up the text again.
-/

namespace PageClip

abbrev Text := List Char

namespace Text

/-- What stands before the first `mark` and what follows it. -/
def cut? (mark : Text) : Text → Option (Text × Text)
  | [] => if mark.isEmpty then some ([], []) else none
  | c :: rest =>
    if mark.isPrefixOf (c :: rest) then some ([], (c :: rest).drop mark.length)
    else (cut? mark rest).map fun (before, after) => (c :: before, after)

theorem cut?_eq_some {mark text before after : Text} (h : cut? mark text = some (before, after)) :
    text = before ++ mark ++ after := by
  induction text generalizing before with
  | nil =>
    simp only [cut?] at h
    split at h
    · simp_all
    · simp at h
  | cons c rest ih =>
    simp only [cut?] at h
    split at h
    · next found =>
      obtain ⟨rfl, rfl⟩ := Prod.mk.inj (Option.some.inj h)
      obtain ⟨tail, eq⟩ := List.isPrefixOf_iff_prefix.mp found
      simp [← eq]
    · obtain ⟨⟨before', after'⟩, cutRest, eq⟩ := Option.map_eq_some_iff.mp h
      obtain ⟨rfl, rfl⟩ := Prod.mk.inj eq
      simp [ih cutRest]

theorem length_of_cut? {mark text before after : Text} (h : cut? mark text = some (before, after)) :
    text.length = before.length + mark.length + after.length := by
  simp [cut?_eq_some h, Nat.add_assoc]

/-- Whether `mark` occurs somewhere. -/
def has (mark text : Text) : Bool := (cut? mark text).isSome

/-- What follows the last `mark`, or the whole text where there is none. -/
def afterLast (mark : Char) (text : Text) : Text :=
  (text.reverse.takeWhile (· ≠ mark)).reverse

/-- The text with every `old` put as `new`. -/
def substitute (old : Char) (new : Text) (text : Text) : Text :=
  text.flatMap fun c => if c = old then new else [c]

def isHexDigit (c : Char) : Bool :=
  c.isDigit || ('a' ≤ c && c ≤ 'f') || ('A' ≤ c && c ≤ 'F')

def hexValue (c : Char) : Nat :=
  if c.isDigit then c.toNat - '0'.toNat
  else if 'a' ≤ c && c ≤ 'f' then c.toNat - 'a'.toNat + 10
  else c.toNat - 'A'.toNat + 10

/-- The number that ASCII digits write in a base of at most sixteen. -/
def ofDigits (base : Nat) (digits : Text) : Nat :=
  digits.foldl (fun n c => n * base + hexValue c) 0

end Text

end PageClip
