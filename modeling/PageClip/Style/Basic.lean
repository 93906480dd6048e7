import PageClip.Json.Basic
import PageClip.Stylesheet.Breakpoint

/-!
# Class styles

A class style holds the declarations of one class on one line, and further lines
for narrow screens.
-/

namespace PageClip

structure Style where
  id : String
  name : String
  base : String
  variants : List (Breakpoint × String)
  deriving DecidableEq, Repr

namespace Style

/-- Whether a style declares nothing at all. -/
def isEmpty (style : Style) : Bool := style.base.isEmpty && style.variants.isEmpty

def toJson (style : Style) : Json :=
  .object [
    ("_id", .string style.id),
    ("fake", .bool false),
    ("type", .string "class"),
    ("name", .string style.name),
    ("namespace", .string ""),
    ("comb", .string ""),
    ("styleLess", .string style.base),
    ("variants", .object (style.variants.map fun (tier, line) =>
      (tier.name, .object [("styleLess", .string line)]))),
    ("children", .emptyArray),
    ("origin", .null),
    ("selector", .null)]

end Style

end PageClip
