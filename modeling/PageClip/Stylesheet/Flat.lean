import PageClip.Stylesheet.Variable

/-!
# Flattened declarations

The declarations of a rule on one line, with their references replaced.
-/

namespace PageClip.Stylesheet

open PageClip.Text

/-- A declaration without braces and surrounding blanks, and without the semicolons at its end. -/
def bareDeclaration (declaration : Text) : Text :=
  let unbraced := declaration.filter fun c => c ≠ '\x7b' && c ≠ '\x7d'
  trim ((trim unbraced).reverse.dropWhile (· == ';')).reverse

/-- A declaration with one blank behind its first colon and none before it. -/
def spaceColon (declaration : Text) : Text :=
  match cut? [':'] declaration with
  | some (name, value) => trimRight name ++ [':', ' '] ++ trimLeft value
  | none => declaration

/-- The declarations that are not blank, with their references replaced. -/
def resolveDeclarations (values : Variables) (declarations : List Text) : List Resolution :=
  ((declarations.map bareDeclaration).filter fun bare => !bare.isEmpty).map fun bare =>
    resolve values (spaceColon bare)

def flatten (values : Variables) (declarations : List Text) : Resolution :=
  let resolved := resolveDeclarations values declarations
  ⟨[';', ' '].intercalate (resolved.map (·.text)), resolved.flatMap (·.events)⟩

end PageClip.Stylesheet
