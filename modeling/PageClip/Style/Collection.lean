import PageClip.Style.Basic

/-!
# Style collections

The styles compiled for one stylesheet, with the ids of their classes and the
text that class styles cannot express.
-/

namespace PageClip

abbrev ClassIds := Table String String

structure StyleCollection where
  /-- The style id of each class, in the order in which classes were asked for. -/
  classIds : ClassIds
  styles : List Style
  advanced : String
  deriving DecidableEq, Repr

namespace StyleCollection

def empty : StyleCollection := ⟨[], [], ""⟩

def style? (className : String) (collection : StyleCollection) : Option Style :=
  match Table.find? className collection.classIds with
  | some id => collection.styles.find? fun style => style.id == id
  | none => none

end StyleCollection

end PageClip
