import PageClip.Given
import PageClip.Markup.Parse
import PageClip.Tree.Roots
import PageClip.Tree.Walk

/-!
# Compiling trees

A page becomes a flat list of nodes, parents first, and the ids of its roots.
Styles are referred to through a table of class ids; `compileDiscovering` makes
one for all classes of the page.
-/

namespace PageClip

open Markup

structure Tree where
  nodes : List Node
  rootIds : List String
  /-- The style ids of the classes that were found on the page, where they were looked for. -/
  classIds : ClassIds

namespace Tree

def elementCount (tree : Tree) : Nat := tree.nodes.countP fun node => !node.isText

def textCount (tree : Tree) : Nat := tree.nodes.countP Node.isText

def compileRoots (classIds : ClassIds) : List Element → Build (List Node × List String)
  | [] => pure ([], [])
  | root :: rest => do
    let nodes ← compileElement classIds root false
    let (more, ids) ← compileRoots classIds rest
    pure (nodes ++ more, (nodes.head?.map Node.id).toList ++ ids)

def compileDocument (classIds : ClassIds) (document : Document) : Build Tree := do
  let (nodes, rootIds) ← compileRoots classIds (contentRoots document)
  Build.note (.compiledTree nodes.length rootIds.length)
  pure ⟨nodes, rootIds, []⟩

def compile (parser : String) (classIds : ClassIds) (html : String) : Build Tree := do
  compileDocument classIds (← Build.ofExcept (parseWith parser html))

/-- The classes that the elements of a document have, each once, in order of first use. -/
def discoverClasses (document : Document) : List String :=
  ((elementsOf document).flatMap fun element =>
    ((element.attribute? "class").map fun value => (AttributeValue.text value).classNames).getD []
  ).eraseDups

def drawIds : List String → Build ClassIds
  | [] => pure []
  | name :: rest => do
    let id ← Build.newId
    let more ← drawIds rest
    pure ((name, id) :: more)

/-- Compiles a document and gives each of its classes a style id. -/
def compileDocumentDiscovering (document : Document) : Build Tree := do
  let classIds ← drawIds (discoverClasses document)
  let tree ← compileDocument classIds document
  pure { tree with classIds }

def compileDiscovering (parser : String) (html : String) : Build Tree := do
  compileDocumentDiscovering (← Build.ofExcept (parseWith parser html))

/-- Compiles what a caller hands over; the table of class ids may have been left out. -/
def compileGiven (parser : String) (classIds : Option ClassIds) (html : Given) : Build Tree := do
  let html ← Build.ofExcept (html.require "html_text")
  match classIds with
  | some classIds => compile parser classIds html
  | none => Build.fail (.missing "class_to_id")

/-- Compiles what a caller hands over and gives each of its classes a style id. -/
def compileDiscoveringGiven (parser : String) (html : Given) : Build Tree := do
  compileDiscovering parser (← Build.ofExcept (html.require "html_text"))

end Tree

end PageClip
