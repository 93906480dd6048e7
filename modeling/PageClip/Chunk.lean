import PageClip.Build
import PageClip.Decimal.Shortest
import PageClip.Text.Lowercase
import PageClip.Tree.Subtree

/-!
# Chunks

A page that holds too many nodes for one paste is cut into chunks of whole root
subtrees. Roots are packed greedily; a root that is larger than the limit has a
chunk of its own.
-/

namespace PageClip

open PageClip.Tree

/-- The most nodes that a chunk should hold, as a caller gives it. -/
inductive Limit where
  | missing
  | integer (value : Int)
  | flag (value : Bool)
  | real (value : Decimal.Binary64)
  | notNumeric
  deriving DecidableEq, Repr

namespace Limit

def shown : Limit → String
  | .missing => "None"
  | .integer value => toString value
  | .flag true => "True"
  | .flag false => "False"
  | .real value => String.ofList value.text
  | .notNumeric => ""

/-- Whether a chunk of `count` nodes keeps within a limit. -/
def admits (count : Nat) : Limit → Bool
  | .missing => false
  | .integer value => (count : Int) ≤ value
  | .flag value => count ≤ value.toNat
  | .real value => value.atLeast count
  | .notNumeric => false

/-- Whether a limit can be kept: it is a number and admits a node. -/
def check (limit : Limit) : Except Fault Unit :=
  if limit = .notNumeric then .error .limitNotNumeric
  else if limit.admits 1 then .ok ()
  else .error (.limitTooSmall limit.shown)

end Limit

structure RootGroup where
  roots : List String
  ids : List String
  deriving DecidableEq, Repr

namespace RootGroup

def empty : RootGroup := ⟨[], []⟩

/-- The group with a further root; ids that it has already are not counted twice. -/
def add (root : String) (ids : List String) (group : RootGroup) : RootGroup where
  roots := group.roots ++ [root]
  ids := ids.foldl (fun known id => if known.contains id then known else id :: known) group.ids

/-- The group in a list, unless it holds no nodes. -/
def toList (group : RootGroup) : List RootGroup := if group.ids.isEmpty then [] else [group]

end RootGroup

/-- Packs roots with their subtrees behind a group that is being filled. -/
def packFrom (limit : Limit) (group : RootGroup) : List (String × List String) → List RootGroup
  | [] => group.toList
  | (root, ids) :: rest =>
    if !group.ids.isEmpty && !limit.admits (group.ids.length + ids.length) then
      group :: packFrom limit (RootGroup.empty.add root ids) rest
    else packFrom limit (group.add root ids) rest

def pack (limit : Limit) (subtrees : List (String × List String)) : List RootGroup :=
  packFrom limit .empty subtrees

/-- Whole root subtrees of a page, in the order of its nodes. -/
structure Chunk where
  label : String
  nodes : List Node

namespace Chunk

def toJson (chunk : Chunk) : Json :=
  .object [
    ("label", .string chunk.label),
    ("nodes", .array (chunk.nodes.map Node.toJson)),
    ("nodeCount", .integer chunk.nodes.length)]

def rootLabels : List (String × String) := [
  ("header", "Header"), ("nav", "Navigation"), ("section", "Section"), ("footer", "Footer"),
  ("main", "Main Content"), ("article", "Article"), ("aside", "Sidebar"), ("form", "Form")]

/-- The label that the node of a root gives to a chunk. -/
def rootLabel? : Option Node → Option String
  | some (.element node) => rootLabels.lookup (lowercase node.tag)
  | _ => none

/-- The label of the group that is `number`-th of `count`. -/
def groupLabel (table : NodeTable) (count number : Nat) (group : RootGroup) : String :=
  let own :=
    match group.roots with
    | [root] => rootLabel? (table.find? root)
    | _ => none
  own.getD (if count = 1 then "Complete Page" else s!"Chunk {number}")

def ofGroup (nodes : List Node) (table : NodeTable) (count number : Nat) (group : RootGroup) :
    Chunk where
  label := groupLabel table count number group
  nodes := nodes.filter fun node => group.ids.contains node.id

/-- The chunks of groups, of which the first is the `number`-th of `count`. -/
def ofGroups (nodes : List Node) (table : NodeTable) (count : Nat) :
    Nat → List RootGroup → List Chunk
  | _, [] => []
  | number, group :: rest =>
    ofGroup nodes table count number group :: ofGroups nodes table count (number + 1) rest

/-- The subtrees of roots, where no child ids lead in a circle. -/
def subtrees? (table : NodeTable) : List String → Option (List (String × List String))
  | [] => some []
  | root :: rest =>
    match subtreeIds? table root, subtrees? table rest with
    | some ids, some more => some ((root, ids) :: more)
    | _, _ => none

def placed (chunks : List Chunk) : Nat := (chunks.flatMap Chunk.nodes).length

end Chunk

def chunksOf (nodes : List Node) (rootIds : List String) (limit : Limit) : Except Fault (List Chunk) :=
  let table := NodeTable.ofNodes nodes
  match limit.check with
  | .error fault => .error fault
  | .ok () =>
    match Chunk.subtrees? table rootIds with
    | none => .error .cyclicNodes
    | some subtrees =>
      let groups := pack limit subtrees
      .ok (Chunk.ofGroups nodes table groups.length 1 groups)

def chunkEvents (nodes : List Node) (chunks : List Chunk) : List Event :=
  let placed := Chunk.placed chunks
  if placed = nodes.length then []
  else [.unreachableNodes ((nodes.length : Int) - placed) nodes.length]

def cutChunks (nodes : List Node) (rootIds : List String) (limit : Limit) : Build (List Chunk) := do
  let chunks ← Build.ofExcept (chunksOf nodes rootIds limit)
  Build.noteAll (chunkEvents nodes chunks)
  pure chunks

end PageClip
