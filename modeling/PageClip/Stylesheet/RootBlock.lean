import PageClip.Stylesheet.Declaration
import PageClip.Stylesheet.Delimiter

/-!
# Root blocks

The blocks of `:root` define the variables of a stylesheet and are taken out of
it, wherever they stand. A block that is never closed stays.
-/

namespace PageClip.Stylesheet

open PageClip.Text

structure RootSplit where
  /-- The custom properties of the blocks, in order. -/
  definitions : List (Text × Text)
  remainder : Text
  /-- Where a block starts that is never closed. -/
  unclosed : Option Nat
  deriving DecidableEq, Repr

/-- What follows the opening brace, where a root block starts at the front of the text. -/
def rootBody? : Text → Option Text
  | ':' :: 'r' :: 'o' :: 'o' :: 't' :: rest =>
    match trimLeft rest with
    | '\x7b' :: body => some body
    | _ => none
  | _ => none

theorem length_of_rootBody? {text body : Text} (h : rootBody? text = some body) :
    body.length < text.length := by
  unfold rootBody? at h
  split at h
  · next rest =>
    have shorter := (List.dropWhile_sublist isBlank (l := rest)).length_le
    split at h
    · next inner eq =>
      obtain rfl := Option.some.inj h
      have := congrArg List.length eq
      simp only [trimLeft, List.length_cons] at this ⊢
      omega
    · simp at h
  · simp at h

/-- Takes apart the text from `offset` on. -/
def splitRootFrom (offset : Nat) (css : Text) : RootSplit :=
  match _ : rootBody? css with
  | some opened =>
    match _ : Delimiter.brace.enclosed 0 opened with
    | some (body, after) =>
      let split := splitRootFrom (offset + (css.length - after.length)) after
      { split with definitions := customProperties body ++ split.definitions }
    | none => ⟨[], css, some offset⟩
  | none =>
    match css with
    | [] => ⟨[], [], none⟩
    | c :: rest =>
      let split := splitRootFrom (offset + 1) rest
      { split with remainder := c :: split.remainder }
termination_by css.length
decreasing_by
  · have := length_of_rootBody? ‹_›
    have := Delimiter.length_of_enclosed ‹_›
    omega
  · simp

def splitRoot (css : Text) : RootSplit := splitRootFrom 0 css

/-- The variables that the blocks define; the last definition of a name counts. -/
def RootSplit.values (split : RootSplit) : Variables := Table.ofList split.definitions

end PageClip.Stylesheet
