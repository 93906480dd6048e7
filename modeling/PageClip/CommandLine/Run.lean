import PageClip.CommandLine.Arguments
import PageClip.CommandLine.FileTree
import PageClip.Conversion
import PageClip.Text.Control
import PageClip.Tree.Outline

/-!
# Running commands

A command does its work in steps: it prints, tells, and writes files, in this
order of happening. `perform` carries the steps out on a file tree; the first
one that fails ends them.
-/

namespace PageClip.CommandLine

inductive Effect where
  | print (text : String)
  | tell (text : String)
  | write (path content : String)
  deriving DecidableEq, Repr

/-- What a command does, and how it ends. -/
structure Plan where
  effects : List Effect
  /-- Why it cannot go on, if it cannot. -/
  fault : Option Fault
  exitCode : Nat
  deriving DecidableEq, Repr

namespace Plan

/-- A plan that ends well. -/
def finished (effects : List Effect) : Plan := ⟨effects, none, 0⟩

/-- A plan that comes to nothing because of a fault. -/
def failed (effects : List Effect) (fault : Fault) : Plan := ⟨effects, some fault, 1⟩

/-- A plan for arguments that cannot be understood. -/
def misused : Plan := ⟨[], none, 2⟩

end Plan

def shownLine (line : String) : String := String.ofList (Text.dropControls line.toList) ++ "\n"

def printLine (line : String) : Effect := .print (shownLine line)

def tellLine (line : String) : Effect := .tell (shownLine line)

/-- The lines that are told of events: all of them, or the warnings. -/
def told (verbose : Bool) (ledger : Ledger) : List Effect :=
  (ledger.events.filter fun event => verbose || event.level = .warning).map fun event =>
    .tell (event.line ++ "\n")

/-- A text whose line ends are those of this system. -/
def normalizeLines : Text → Text
  | [] => []
  | '\r' :: '\n' :: rest => '\n' :: normalizeLines rest
  | '\r' :: rest => '\n' :: normalizeLines rest
  | c :: rest => c :: normalizeLines rest

def fileText (content : String) : String := String.ofList (normalizeLines content.toList)

def chunkFileName (number : Nat) (label : String) : String :=
  let slug := Text.substitute ' ' ['-'] (Text.lower label.toList)
  (if number < 10 then "0" else "") ++ s!"{number}-" ++ String.ofList slug ++ ".json"

/-- Writes each chunk into a directory; the first is the `number`-th. -/
def writeChunks (directory : String) : Nat → List (Chunk × Clipboard) → List Effect
  | _, [] => []
  | number, (chunk, clipboard) :: rest =>
    let path := joinPath directory (chunkFileName number chunk.label)
    .write path (clipboard.render (some 2)) ::
      tellLine s!"Wrote {path} ({chunk.nodes.length} nodes)" ::
      writeChunks directory (number + 1) rest

/-- Whether a fault is a breach of contract, which is reported and not passed on. -/
def isReported (fault : Fault) : Bool := fault.argument.isSome

def reportFault (before : List Effect) (fault : Fault) : Plan :=
  if isReported fault then
    ⟨before ++ [tellLine s!"Conversion failed: {fault.message.getD default}"], none, 1⟩
  else .failed before fault

/-- An option whose value is not empty. -/
def filled (value : Option String) : Option String := value.filter fun text => !text.isEmpty

def deliver (options : ConvertOptions) (result : Conversion) : List Effect :=
  let clipboard := result.clipboard
  (match filled options.output with
    | some path =>
      [.write path (clipboard.render (some 2)),
        tellLine s!"Wrote {path}: {clipboard.stats.summary}"]
    | none => [printLine (clipboard.render (some 2))]) ++
  (match filled options.split with
    | some directory => writeChunks directory 1 (result.chunks.zip result.chunkClipboards)
    | none => []) ++
  if result.needsCode then
    [tellLine "\nCustom code for an HTML Embed element:", tellLine result.code]
  else []

def describe (result : Conversion) (outline : String) : List Effect :=
  let stats := result.clipboard.stats
  [printLine s!"Nodes:  {stats.nodes} ({stats.elements} elements, {stats.texts} text)",
    printLine s!"Styles: {stats.styles}",
    printLine s!"Roots:  {result.tree.rootIds.length}",
    printLine s!"Chunks: {result.chunks.length}",
    printLine "",
    printLine outline]

def listStyle (style : Style) : List Effect :=
  printLine (s!".{style.name}: " ++ if style.base.isEmpty then "(empty)" else style.base) ::
    style.variants.map fun (tier, line) => printLine s!"  @{tier.name}: {line}"

def listStyles (styles : StyleCollection) : List Effect :=
  styles.styles.flatMap listStyle ++
    if styles.advanced.isEmpty then []
    else [printLine "", printLine "Advanced CSS:", printLine styles.advanced]

def versionLine : String := "flowpaste, version 0.1.0"

def helpText : String :=
  "Usage: flowpaste [-v] COMMAND\n\n" ++
  "Commands:\n" ++
  "  convert HTMLFILE [--css FILE] [--js FILE] [-o FILE] [--split DIR] [--chunk-size N] [--base-only]\n" ++
  "  inspect HTMLFILE [--css FILE]\n" ++
  "  styles CSSFILE [--class NAME]..."

/-- The text of the file that an option names; empty where it names none. -/
def optionText (read : String → String) (path : Option String) : String :=
  ((filled path).map read).getD ""

/-- The plan for a command; `read` gives the texts of its input files. -/
def plan (read : String → String) (ids : IdSource) (invocation : Invocation) : Plan :=
  let verbose := invocation.verbose
  match invocation.command with
  | .version => .finished [printLine versionLine]
  | .help => .finished [printLine helpText]
  | .convert options =>
    let settings := { Settings.standard with
      limit := .integer options.chunkSize
      responsive := !options.baseOnly }
    match (convert settings (read options.page) (optionText read options.css)
        (optionText read options.js)).run ids .fresh with
    | (.error fault, ledger) => reportFault (told verbose ledger) fault
    | (.ok result, ledger) => .finished (told verbose ledger ++ deliver options result)
  | .inspect page css =>
    match (convert .standard (read page) (optionText read css) "").run ids .fresh with
    | (.error fault, ledger) => reportFault (told verbose ledger) fault
    | (.ok result, ledger) =>
      match Tree.outline result.tree.nodes result.tree.rootIds with
      | .error fault => .failed (told verbose ledger) fault
      | .ok outline => .finished (told verbose ledger ++ describe result outline)
  | .styles sheet classNames =>
    let css := read sheet
    let names := if classNames.isEmpty then stylesheetClasses css else classNames
    match (compileResponsive css names).run ids .fresh with
    | (.error fault, ledger) => .failed (told verbose ledger) fault
    | (.ok styles, ledger) => .finished (told verbose ledger ++ listStyles styles)

structure Outcome where
  exitCode : Nat
  stdout : String
  stderr : String
  tree : FileTree
  /-- The fault that ended the run, if one did. -/
  fault : Option Fault
  deriving DecidableEq, Repr

namespace Outcome

def start (tree : FileTree) : Outcome := ⟨0, "", "", tree, none⟩

/-- Carries out what a command does, up to the first step that fails. -/
def perform (outcome : Outcome) : List Effect → Outcome
  | [] => outcome
  | .print text :: rest => perform { outcome with stdout := outcome.stdout ++ text } rest
  | .tell text :: rest => perform { outcome with stderr := outcome.stderr ++ text } rest
  | .write path content :: rest =>
    match outcome.tree.write path content with
    | .ok tree => perform { outcome with tree } rest
    | .error fault => { outcome with exitCode := 1, fault := some fault }

end Outcome

def Plan.perform (plan : Plan) (tree : FileTree) : Outcome :=
  let outcome := Outcome.perform (.start tree) plan.effects
  if outcome.fault.isSome then outcome
  else { outcome with exitCode := plan.exitCode, fault := plan.fault }

def run (arguments : List String) (ids : IdSource) (tree : FileTree) : Outcome :=
  match readInvocation? arguments with
  | none => Plan.misused.perform tree
  | some invocation =>
    if invocation.command.inputs.all fun path => (tree.read? path).isSome then
      (plan (fun path => fileText ((tree.read? path).getD "")) ids invocation).perform tree
    else Plan.misused.perform tree

end PageClip.CommandLine
