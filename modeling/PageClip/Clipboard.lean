import PageClip.Decimal.Size
import PageClip.Json.Printer
import PageClip.Node.Basic
import PageClip.Style.Basic

/-!
# Clipboard documents

Nodes and styles wrapped for a paste, and the counts that describe them.
-/

namespace PageClip

structure Stats where
  nodes : Int
  elements : Int
  texts : Int
  styles : Int
  assets : Int
  bytes : Int
  deriving DecidableEq, Repr

namespace Stats

/-- The size in kilobytes, where it is not too large to tell. -/
def size? (stats : Stats) : Option String := Decimal.kilobytes? stats.bytes

def size (stats : Stats) : String := stats.size?.getD "inf KB"

def summary (stats : Stats) : String :=
  s!"{stats.nodes} nodes ({stats.elements} elements, {stats.texts} text), {stats.styles} styles, {stats.size}"

end Stats

structure Clipboard where
  nodes : List Node
  styles : List Style
  assets : List Json

namespace Clipboard

def documentType : String := "@webflow/XscpData"

def toJson (clipboard : Clipboard) : Json :=
  .object [
    ("type", .string documentType),
    ("payload", .object [
      ("nodes", .array (clipboard.nodes.map Node.toJson)),
      ("styles", .array (clipboard.styles.map Style.toJson)),
      ("assets", .array clipboard.assets),
      ("ix1", .emptyArray),
      ("ix2", .object [
        ("interactions", .emptyArray),
        ("events", .emptyArray),
        ("actionLists", .emptyArray)])]),
    ("meta", .object [
      ("unlinkedSymbolCount", .integer 0),
      ("droppedLinks", .integer 0),
      ("dynBindRemovedCount", .integer 0),
      ("dynListBindRemovedCount", .integer 0),
      ("paginationRemovedCount", .integer 0)])]

/-- The text of a paste: compact, or with an indentation per level. -/
def render (indent : Option Nat) (clipboard : Clipboard) : String :=
  clipboard.toJson.render indent

/-- The counts of a paste; its size is that of the compact text. -/
def stats (clipboard : Clipboard) : Stats where
  nodes := clipboard.nodes.length
  elements := clipboard.nodes.countP fun node => !node.isText
  texts := clipboard.nodes.countP Node.isText
  styles := clipboard.styles.length
  assets := clipboard.assets.length
  bytes := (clipboard.render none).utf8ByteSize

end Clipboard

end PageClip
