import PageClip.CommandLine.Path
import PageClip.Fault
import PageClip.Table

/-!
# File trees

The files and directories that a program sees from its working directory. Names
are looked up one component after another, and each but the last has to be a
directory.
-/

namespace PageClip.CommandLine

structure FileTree where
  files : Table Location String
  directories : List Location
  deriving DecidableEq, Repr

inductive Entry where
  | nothing
  | file (content : String)
  | directory
  deriving DecidableEq, Repr

namespace FileTree

def entry (tree : FileTree) (location : Location) : Entry :=
  match Table.find? location tree.files with
  | some content => .file content
  | none =>
    if location.isBase || tree.directories.contains location then .directory else .nothing

def longestName : Nat := 255

def follow (tree : FileTree) (start : Location) : List String → Except Fault Location
  | [] => .ok start
  | part :: rest =>
    match tree.entry start with
    | .directory =>
      if part = "" || part = "." then tree.follow start rest
      else if part = ".." then tree.follow start.up rest
      else if longestName < part.utf8ByteSize then .error .nameTooLong
      else tree.follow (start ++ [part]) rest
    | .file _ => .error .notDirectory
    | .nothing => .error .missingFile

/-- The content of the file at a path, if there is one. -/
def read? (tree : FileTree) (path : String) : Option String :=
  if path.isEmpty then none
  else
    match tree.follow (.origin path) (rawComponents path) with
    | .error _ => none
    | .ok location =>
      match tree.entry location with
      | .file content => some content
      | _ => none

def addDirectory (tree : FileTree) (location : Location) : FileTree :=
  { tree with directories := tree.directories ++ [location] }

/-- Makes the directory that components lead to from a location and those on the way. `done` are the
components that lead to a directory already. -/
def makeDirectories (tree : FileTree) (start : Location) (done : List String) :
    List String → Except Fault FileTree
  | [] => .ok tree
  | part :: rest =>
    match tree.follow start (done ++ [part]) with
    | .error fault => .error fault
    | .ok location =>
      match tree.entry location with
      | .directory => tree.makeDirectories start (done ++ [part]) rest
      | .file _ => .error (if rest.isEmpty then .fileExists else .notDirectory)
      | .nothing => (tree.addDirectory location).makeDirectories start (done ++ [part]) rest

def write (tree : FileTree) (path content : String) : Except Fault FileTree :=
  let parts := components path
  let start := Location.origin path
  match tree.makeDirectories start [] parts.dropLast with
  | .error fault => .error fault
  | .ok tree =>
    match tree.follow start parts with
    | .error fault => .error fault
    | .ok location =>
      match tree.entry location with
      | .directory => .error .isDirectory
      | _ => .ok { tree with files := Table.put location content tree.files }

def ofFiles : List (String × String) → FileTree
  | [] => ⟨[], []⟩
  | (path, content) :: rest =>
    let tree := ofFiles rest
    match tree.write path content with
    | .ok tree => tree
    | .error _ => tree

end FileTree

end PageClip.CommandLine
