import PageClip.CommandLine.Run

/-!
# The program

Runs a command on the files of this machine, with ids that no other run draws.
-/

namespace PageClip.CommandLine

def randomTail : IO String := do
  let part (width : Nat) : IO String := do
    pure (String.ofList (Text.hex width (← IO.rand 0 (Nat.pow 16 width - 1))))
  let second ← part 4
  let third ← part 3
  let fourth ← part 3
  let fifth ← part 12
  pure s!"-{second}-4{third}-8{fourth}-{fifth}"

/-- The texts of files by path, if all of them can be read. -/
def readFiles? : List String → IO (Option (List (String × String)))
  | [] => pure (some [])
  | path :: rest => do
    match ← (IO.FS.readFile path).toBaseIO with
    | .error _ => pure none
    | .ok content => pure ((← readFiles? rest).map fun more => (path, content) :: more)

def carryOut : Effect → IO Unit
  | .print text => do (← IO.getStdout).putStr text
  | .tell text => do (← IO.getStderr).putStr text
  | .write path content => do
    IO.FS.createDirAll (parentPath path)
    IO.FS.writeFile path content

def execute (invocation : Invocation) (files : List (String × String)) : IO UInt32 := do
  let tail ← randomTail
  let read (path : String) : String := fileText ((files.lookup path).getD "")
  let work := plan read (.counted tail) invocation
  work.effects.forM carryOut
  match work.fault with
  | some fault => (← IO.getStderr).putStr (shownLine (fault.message.getD "The page cannot be read."))
  | none => pure ()
  pure work.exitCode.toUInt32

def runProgram (arguments : List String) : IO UInt32 := do
  match readInvocation? arguments with
  | none =>
    (← IO.getStderr).putStr (shownLine helpText)
    pure 2
  | some invocation =>
    match ← readFiles? invocation.command.inputs with
    | none =>
      (← IO.getStderr).putStr (shownLine "A file cannot be read.")
      pure 2
    | some files => execute invocation files

end PageClip.CommandLine

def main (arguments : List String) : IO UInt32 :=
  PageClip.CommandLine.runProgram arguments
