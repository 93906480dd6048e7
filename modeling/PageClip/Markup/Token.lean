import PageClip.Text.Basic

/-!
# Markup tokens

A page is read as tags, runs of text, and asides such as comments.
-/

namespace PageClip.Markup

/-- What a piece of markup that is neither tag nor text is. -/
inductive Aside where
  /-- A section of character data, which counts as text in some places. -/
  | cdata
  | remark
  deriving DecidableEq, Repr

inductive Token where
  /-- A start tag; `closed` if it is its own end tag. -/
  | opening (name : Text) (attributes : List (Text × Text)) (closed : Bool)
  | closing (name : Text)
  | text (content : Text)
  | aside (kind : Aside) (content : Text)
  deriving DecidableEq, Repr

inductive Construct where
  /-- Tokens, the element whose content is raw from there on, and what follows. -/
  | complete (tokens : List Token) (raw : Option Text) (rest : Text)
  /-- The text ends before the construct does. -/
  | incomplete
  | rejected
  deriving DecidableEq, Repr

end PageClip.Markup
