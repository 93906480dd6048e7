import PageClip.Text.Quoted

/-!
# Events

What is worth telling while a page is compiled. Each event has a level, the
name of the part that tells it, and a wording.
-/

namespace PageClip

inductive Level where
  | debug
  | info
  | warning
  deriving DecidableEq, Repr

def Level.name : Level → String
  | .debug => "DEBUG"
  | .info => "INFO"
  | .warning => "WARNING"

inductive Event where
  /-- A block of root variables is never closed. -/
  | unclosedRoot (offset : Nat)
  /-- The block of an at-rule is never closed. -/
  | unclosedAtRule (offset : Nat)
  /-- A variable reference is never closed. -/
  | unclosedReference (offset : Nat)
  | unresolvedVariable (name : String)
  | noTier (condition : String)
  | noRule (className : String)
  | customElement (tag : String)
  | compiledTree (nodes roots : Nat)
  | madeEmbed (characters : Nat)
  | localScript (source : String)
  | unreachableNodes (missing total : Int)
  | converted (nodes styles chunks : Nat)
  deriving DecidableEq, Repr

namespace Event

def level : Event → Level
  | .madeEmbed _ => .info
  | .converted .. => .info
  | .localScript _ => .warning
  | .unreachableNodes .. => .warning
  | _ => .debug

def source : Event → String
  | .unclosedRoot _ => "flowpaste.stylesheet.parser"
  | .unclosedAtRule _ => "flowpaste.stylesheet.parser"
  | .unclosedReference _ => "flowpaste.stylesheet.variables"
  | .unresolvedVariable _ => "flowpaste.stylesheet.variables"
  | .noTier _ => "flowpaste.stylesheet.compiler"
  | .noRule _ => "flowpaste.stylesheet.compiler"
  | .customElement _ => "flowpaste.tree.payload"
  | .compiledTree .. => "flowpaste.tree.compiler"
  | .madeEmbed _ => "flowpaste.tree.embed"
  | .localScript _ => "flowpaste.tree.scripts"
  | .unreachableNodes .. => "flowpaste.chunker"
  | .converted .. => "flowpaste.convert"

def message : Event → String
  | .unclosedRoot offset => s!"Unterminated :root block at offset {offset}"
  | .unclosedAtRule offset => s!"Unterminated at-rule at offset {offset}"
  | .unclosedReference offset => s!"Unterminated var() at offset {offset}"
  | .unresolvedVariable name => s!"Unresolved CSS variable {name}"
  | .noTier condition => s!"No breakpoint tier for @media {condition}"
  | .noRule className =>
    "No CSS rule for class " ++ String.ofList (Text.quoted className.toList)
  | .customElement tag => s!"Custom element for <{tag}>"
  | .compiledTree nodes roots => s!"Compiled {nodes} nodes under {roots} roots"
  | .madeEmbed characters => s!"Created HTML embed ({characters} characters)"
  | .localScript source => s!"Skipping local script reference: {source}"
  | .unreachableNodes missing total =>
    s!"{missing} of {total} nodes are not reachable from any root"
  | .converted nodes styles chunks =>
    s!"Converted {nodes} nodes and {styles} styles into {chunks} chunk(s)"

def line (event : Event) : String :=
  s!"{event.level.name} {event.source}: {event.message}"

end Event

end PageClip
