import PageClip.Table
import PageClip.Text.Blank
import PageClip.Text.Word

/-!
# Declarations

The inside of a block is a list of declarations between semicolons; a semicolon
inside parentheses belongs to its declaration.
-/

namespace PageClip.Stylesheet

open PageClip.Text

/-- The pieces between semicolons outside parentheses. `depth` counts open parentheses and `piece`
is the piece being read, last character first. -/
def piecesFrom (depth : Nat) (piece : Text) : Text → List Text
  | [] => [piece.reverse]
  | c :: rest =>
    if c = ';' && depth == 0 then piece.reverse :: piecesFrom 0 [] rest
    else
      let depth := if c = '(' then depth + 1 else if c = ')' then depth - 1 else depth
      piecesFrom depth (c :: piece) rest

/-- The declarations of a block, without surrounding blanks; blank ones are left out. -/
def splitDeclarations (body : Text) : List Text :=
  ((piecesFrom 0 [] body).map trim).filter fun piece => !piece.isEmpty

/-- The name and value of a custom property, if a declaration is one. -/
def customProperty? : Text → Option (Text × Text)
  | '-' :: '-' :: rest =>
    let name := rest.takeWhile isNamePart
    if name.isEmpty then none
    else
      match trimLeft (rest.dropWhile isNamePart) with
      | ':' :: value => some ('-' :: '-' :: name, trim value)
      | _ => none
  | _ => none

/-- The custom properties among the declarations of a block, in order. -/
def customProperties (body : Text) : List (Text × Text) :=
  (splitDeclarations body).filterMap customProperty?

abbrev Variables := Table Text Text

end PageClip.Stylesheet
