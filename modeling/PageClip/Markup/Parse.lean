import PageClip.Fault
import PageClip.Markup.Builder
import PageClip.Markup.Lexer

/-!
# Parsing markup

Markup of any shape gives a document, unless it holds a marked section of an
unknown kind.
-/

namespace PageClip.Markup

def parse (html : String) : Except Fault Document :=
  match lex? html.toList with
  | some tokens => .ok (.ofTokens tokens)
  | none => .error .rejectedMarkup

def parserNames : List String := ["html.parser", "html", "strict"]

/-- The document of a page that asks for a parser by name. -/
def parseWith (parser html : String) : Except Fault Document :=
  if parserNames.contains parser then parse html else .error .unknownParser

end PageClip.Markup
