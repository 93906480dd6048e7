import PageClip.Node.Basic

/-!
# Custom code

Styles and scripts that nodes cannot express are wrapped as markup; a node that
carries the markup can be pasted with the page.
-/

namespace PageClip

/-- A part between its opening and its closing tag, each on a line of its own; nothing if it is
blank. -/
def wrapCode (opening code closing : String) : String :=
  if (Text.trim code.toList).isEmpty then "" else opening ++ "\n" ++ code ++ "\n" ++ closing

/-- Styles and scripts as markup; blank parts are left out. -/
def customCode (css js : String) : String :=
  wrapCode "<style>" css "</style>\n" ++ wrapCode "<script>" js "</script>"

def embedNode (css js : String) : Build Node := do
  let content := customCode css js
  Build.note (.madeEmbed content.length)
  let id ← Build.newId
  let data ← Build.ofExcept (ElementData.make .htmlEmbed "div" [("id", .string "")]
    [("embed", .object [("type", .string "code"), ("content", .string content)])])
  Build.ofExcept (ElementNode.make ⟨id, .htmlEmbed, "div", .standard data, [], []⟩)

end PageClip
