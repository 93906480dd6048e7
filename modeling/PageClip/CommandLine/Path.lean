import PageClip.Text.Basic

/-!
# Paths

A path is read as its components. Empty components and single points mean
nothing in a path that is written. A `Location` is where a path leads.
-/

namespace PageClip.CommandLine

/-- The runs between slashes; `run` is the one being read, last character first. -/
def componentsFrom (run : Text) : Text → List String
  | [] => [String.ofList run.reverse]
  | '/' :: rest => String.ofList run.reverse :: componentsFrom [] rest
  | c :: rest => componentsFrom (c :: run) rest

def rawComponents (path : String) : List String := componentsFrom [] path.toList

def components (path : String) : List String :=
  (rawComponents path).filter fun part => part ≠ "" && part ≠ "."

/-- The text of a path with given components, which starts at the root if `absolute`. -/
def pathText (absolute : Bool) (parts : List String) : String :=
  let joined := "/".intercalate parts
  if absolute then "/" ++ joined else if parts.isEmpty then "." else joined

def isAbsolute (path : String) : Bool := path.toList.head? == some '/'

def joinPath (directory file : String) : String :=
  pathText (isAbsolute directory) (components directory ++ components file)

def parentPath (path : String) : String :=
  pathText (isAbsolute path) (components path).dropLast

/-! ### Locations -/

/-- A file or directory by its components from the working directory. One outside it starts with
the points that lead up, or with the slash of the root. -/
abbrev Location := List String

namespace Location

/-- Where a path starts. -/
def origin (path : String) : Location := if isAbsolute path then ["/"] else []

/-- Whether a location is the working directory, one above it, or the root. -/
def isBase (location : Location) : Bool :=
  location = ["/"] || location.all fun part => part = ".."

def up (location : Location) : Location :=
  if location = ["/"] then location
  else if location.isBase then location ++ [".."]
  else location.dropLast

def isInside (location : Location) : Bool :=
  match location with
  | [] => false
  | part :: _ => part ≠ ".." && part ≠ "/"

end Location

end PageClip.CommandLine
