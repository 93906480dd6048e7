import PageClip.Chunk
import PageClip.Clipboard
import PageClip.Embed
import PageClip.Script
import PageClip.Style.Compile
import PageClip.Stylesheet.ClassNames
import PageClip.Tree.Compile

/-!
# Converting a page

Markup, styles and scripts of a page become nodes and styles for a paste, whole
and in chunks, and the code that has to be pasted by hand. The classes are those
of the stylesheet.
-/

namespace PageClip

structure Settings where
  limit : Limit
  responsive : Bool
  parser : String
  includeCode : Bool
  deriving DecidableEq, Repr

/-- The settings of a conversion that asks for nothing special. -/
def Settings.standard : Settings := ⟨.integer 25, true, "html.parser", true⟩

structure Conversion where
  tree : Tree
  styles : StyleCollection
  chunks : List Chunk
  script : String
  code : String

namespace Conversion

def needsCode (conversion : Conversion) : Bool := !conversion.code.isEmpty

def clipboard (conversion : Conversion) : Clipboard :=
  ⟨conversion.tree.nodes, conversion.styles.styles, []⟩

/-- The page as one paste for each chunk, all with all styles. -/
def chunkClipboards (conversion : Conversion) : List Clipboard :=
  conversion.chunks.map fun chunk => ⟨chunk.nodes, conversion.styles.styles, []⟩

end Conversion

/-- Scripts one after another, without surrounding blanks; blank ones are left out. -/
def joinScripts (scripts : List String) : String :=
  "\n\n".intercalate ((scripts.map fun script => String.ofList (Text.trim script.toList)).filter
    fun script => !script.isEmpty)

def stylesheetClasses (css : String) : List String :=
  (Stylesheet.classNames css.toList).map String.ofList

def convert (settings : Settings) (html css js : String) : Build Conversion := do
  let styles ← compileStyles settings.responsive css (stylesheetClasses css)
  let tree ← Tree.compile settings.parser styles.classIds html
  let chunks ← cutChunks tree.nodes tree.rootIds settings.limit
  let found ← extractScript settings.parser html
  let script := joinScripts [found, js]
  let code := if settings.includeCode then customCode styles.advanced script else ""
  Build.note (.converted tree.nodes.length styles.styles.length chunks.length)
  pure ⟨tree, styles, chunks, script, code⟩

def convertGiven (settings : Settings) (html css js : Given) : Build Conversion := do
  let html ← Build.ofExcept (html.require "html_text")
  let css ← Build.ofExcept (css.require "css_text")
  let js ← Build.ofExcept (js.require "js_text")
  convert settings html css js

end PageClip
