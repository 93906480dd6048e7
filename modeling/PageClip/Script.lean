import PageClip.Build
import PageClip.Given
import PageClip.Markup.Parse
import PageClip.Markup.Query
import PageClip.Text.Caseless

/-!
# Scripts

The scripts of a page are collected as code. A script that is kept elsewhere is
referred to by its address; one in a local file is left out.
-/

namespace PageClip

open Markup

def isRemote (source : Text) : Bool :=
  let afterScheme :=
    match Text.dropCaseless? "https:".toList source with
    | some rest => rest
    | none => (Text.dropCaseless? "http:".toList source).getD source
  ['/', '/'].isPrefixOf afterScheme

def scriptTag (source : String) : String := "<script src=\"" ++ source ++ "\"></script>"

/-- The parts that a script contributes, and what is told about it. -/
def scriptParts (script : Element) : List String × List Event :=
  let source := (script.attribute? "src").getD ""
  let (reference, events) : List String × List Event :=
    if source.isEmpty then ([], [])
    else if isRemote source.toList then ([scriptTag source], [])
    else ([], [.localScript source])
  let body := Text.trim (script.soleText?.getD [])
  (reference ++ if body.isEmpty then [] else [String.ofList body], events)

/-- The code of the scripts of a document, with blank lines between them. -/
def documentScript (document : Document) : String :=
  "\n\n".intercalate ((elementsNamed "script" document).flatMap fun script =>
    (scriptParts script).1)

def scriptEvents (document : Document) : List Event :=
  (elementsNamed "script" document).flatMap fun script => (scriptParts script).2

def extractScript (parser html : String) : Build String := do
  let document ← Build.ofExcept (parseWith parser html)
  Build.noteAll (scriptEvents document)
  pure (documentScript document)

def extractScriptGiven (parser : String) (html : Given) : Build String := do
  extractScript parser (← Build.ofExcept (html.require "html_text"))

end PageClip
