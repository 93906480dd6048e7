import PageClip.Event
import PageClip.Stylesheet.Declaration
import PageClip.Stylesheet.Delimiter

/-!
# Variable references

A reference to a variable is replaced by the variable's value, or by its
fallback where the variable has no value or is being replaced already. What
remains unresolved stays as written. `resolveFrom` ends because each value
entered takes a name out of those that may still be entered.
-/

namespace PageClip.Stylesheet

open PageClip.Text

def referenceMark : Text := ['v', 'a', 'r', '(']

/-- What stands before the first comma outside parentheses, and what follows it if there is one. -/
def splitAtComma (depth : Nat) : Text → Text × Option Text
  | [] => ([], none)
  | c :: rest =>
    if c = ',' && depth == 0 then ([], some rest)
    else
      let depth := if c = '(' then depth + 1 else if c = ')' then depth - 1 else depth
      let (before, after) := splitAtComma depth rest
      (c :: before, after)

theorem length_splitAtComma {depth : Nat} {text before after : Text}
    (h : splitAtComma depth text = (before, some after)) : after.length < text.length := by
  induction text generalizing depth before with
  | nil => simp [splitAtComma] at h
  | cons c rest ih =>
    simp only [splitAtComma] at h
    split at h
    · obtain ⟨-, h⟩ := Prod.mk.inj h
      simp [Option.some.inj h]
    · obtain ⟨-, h⟩ := Prod.mk.inj h
      have := ih (Prod.ext rfl h)
      simp only [List.length_cons]; omega

def referenceName (inside : Text) : Text := trim (splitAtComma 0 inside).1

/-- The fallback of a reference, if it has one. -/
def fallback? (inside : Text) : Option Text := (splitAtComma 0 inside).2.map trim

theorem length_fallback? {inside fallback : Text} (h : fallback? inside = some fallback) :
    fallback.length < inside.length := by
  obtain ⟨after, found, rfl⟩ := Option.map_eq_some_iff.mp h
  have := length_splitAtComma (Prod.ext rfl found)
  have := length_trim_le after
  omega

/-- The value that replaces a name, unless the name is being replaced already. -/
def replacement? (values : Variables) (seen : List Text) (name : Text) : Option Text :=
  if name ∈ seen then none else Table.find? name values

def unseen (values : Variables) (seen : List Text) : Nat :=
  (values.filter fun entry => entry.1 ∉ seen).length

theorem unseen_lt {values : Variables} {seen : List Text} {name value : Text}
    (h : replacement? values seen name = some value) :
    unseen values (name :: seen) < unseen values seen := by
  unfold replacement? at h
  split at h
  · simp at h
  next fresh =>
  have member : name ∈ Table.keys values := Table.find?_isSome_iff.mp (by simp [h])
  clear h
  induction values with
  | nil => simp [Table.keys] at member
  | cons entry rest ih =>
    have keep : unseen rest (name :: seen) ≤ unseen rest seen := by
      simp only [unseen, ← List.countP_eq_length_filter]
      exact List.countP_mono_left fun entry _ h => by simp_all
    by_cases here : entry.1 = name
    · simp only [unseen] at keep ⊢
      simp only [List.filter_cons, here, fresh]
      simpa using Nat.lt_succ_of_le keep
    · have later : name ∈ Table.keys rest := by
        rcases List.mem_cons.mp member with eq | later
        · exact absurd eq.symm here
        · exact later
      have fewer := ih later
      simp only [unseen] at fewer ⊢
      by_cases old : entry.1 ∈ seen <;> simp_all

/-- A text with its references replaced, and what was told on the way. -/
structure Resolution where
  text : Text
  events : List Event
  deriving DecidableEq, Repr

/-- Replaces the references of a text that starts at `offset`; `seen` holds the names that are
being replaced. -/
def resolveFrom (values : Variables) (seen : List Text) (offset : Nat) (value : Text) :
    Resolution :=
  match _ : cut? referenceMark value with
  | none => ⟨value, []⟩
  | some (before, opened) =>
    let start := offset + before.length
    match _ : Delimiter.paren.enclosed 0 opened with
    | none => ⟨value, [.unclosedReference start]⟩
    | some (inside, after) =>
      let here : Resolution :=
        match _ : replacement? values seen (referenceName inside) with
        | some value => resolveFrom values (referenceName inside :: seen) 0 value
        | none =>
          match _ : fallback? inside with
          | some fallback => resolveFrom values seen 0 fallback
          | none =>
            ⟨referenceMark ++ inside ++ [')'],
              [.unresolvedVariable (String.ofList (referenceName inside))]⟩
      let rest := resolveFrom values seen (start + referenceMark.length + inside.length + 1) after
      ⟨before ++ here.text ++ rest.text, here.events ++ rest.events⟩
termination_by (unseen values seen, value.length)
decreasing_by
  · exact Prod.Lex.left _ _ (unseen_lt ‹_›)
  all_goals
    apply Prod.Lex.right
    have outer := length_of_cut? ‹_›
    have inner := Delimiter.length_of_enclosed ‹_›
  · have := length_fallback? ‹_›
    omega
  · omega

def resolve (values : Variables) (value : Text) : Resolution := resolveFrom values [] 0 value

end PageClip.Stylesheet
