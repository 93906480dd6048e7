import PageClip.Embed
import PageClip.Json.Reader
import PageClip.Main
import PageClip.Proofs.Build
import PageClip.Proofs.Chunk.Partition
import PageClip.Proofs.Tree.Recursion
import PageClip.Proofs.Tree.Layout
import PageClip.Proofs.Tree.Preorder
import PageClip.Proofs.Text.Lowercase
import PageClip.Proofs.Tree.Place
import PageClip.Proofs.Tree.FormContext
import PageClip.Proofs.Chunk.Order
import PageClip.Proofs.Conversion
import PageClip.Proofs.Stylesheet.Declaration
import PageClip.Proofs.Stylesheet.Delimiter
import PageClip.Proofs.Stylesheet.Matching
import PageClip.Proofs.Stylesheet.RootBlock
import PageClip.Proofs.Stylesheet.AtRule
import PageClip.Proofs.Stylesheet.Rule
import PageClip.Proofs.Stylesheet.Comment
import PageClip.Proofs.Stylesheet.Grammar
import PageClip.Proofs.Stylesheet.Reference
import PageClip.Proofs.Stylesheet.ValueTree
import PageClip.Proofs.Chunk.Fewest
import PageClip.Proofs.Stylesheet.Succession
import PageClip.Proofs.Stylesheet.Advanced
import PageClip.Proofs.Stylesheet.Occurrence
import PageClip.Proofs.Style.MediaBody
import PageClip.Proofs.Style.Discovery
import PageClip.Proofs.FirstSeen
import PageClip.Proofs.Tree.ClassIds
import PageClip.Proofs.Settings
import PageClip.Proofs.Style.Records
import PageClip.Proofs.Style.FirstMatch
import PageClip.Proofs.Decimal.Numeral
import PageClip.Proofs.Style.Outcome
import PageClip.Proofs.Tree.Outcome
import PageClip.Proofs.Script
import PageClip.Proofs.Json.Reader
import PageClip.Proofs.Clipboard
import PageClip.Proofs.Stylesheet.PlainText
import PageClip.Proofs.Tree.InputType
import PageClip.Proofs.Tree.Roots
import PageClip.Proofs.Embed
import PageClip.Proofs.Stylesheet.Segment
import PageClip.Proofs.Stylesheet.DeclarationList
import PageClip.Proofs.Stylesheet.PrintedRule
import PageClip.Proofs.Stylesheet.Resolution
import PageClip.Proofs.Style.Commented
import PageClip.Proofs.Stylesheet.RootSegment
import PageClip.Proofs.Style.Braces
import PageClip.Proofs.Stylesheet.Reach
import PageClip.Proofs.CommandLine.ChunkFiles
import PageClip.Proofs.Tree.Tour
import PageClip.Proofs.Tree.Outline
import PageClip.Proofs.Chunk.UnknownRoots
import PageClip.Proofs.Markup.Reference
import PageClip.Proofs.Markup.Lexer
import PageClip.Proofs.Markup.Builder
import PageClip.Proofs.Markup.ScriptTag
import PageClip.Proofs.RemoteScript
