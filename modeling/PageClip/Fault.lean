/-!
# Faults

Why a page, a stylesheet or a node cannot be compiled. Malformed markup and
styles are no faults: they are compiled as far as they can be read.
-/

namespace PageClip

inductive Fault where
  | missing (argument : String)
  | notText (argument kind : String)
  | missingClassNames
  /-- One text was given in place of a list of class names. -/
  | classNamesAsText
  | limitTooSmall (shown : String)
  | limitNotNumeric
  /-- Something that holds no names was given in place of a list. -/
  | notAList
  | notSearchable
  | emptyNodeId
  /-- A text node holds nothing but blanks. -/
  | blankTextNode
  | noPayloadShape
  | unknownKind (quotedName : String)
  | unknownBreakpoint (quotedName : String)
  /-- A numeral is too long or is surrounded by the wrong blanks. -/
  | unreadableInteger
  | notLowerable
  | unknownParser
  | rejectedMarkup
  /-- A number of bytes is too large to be told in kilobytes. -/
  | sizeTooLarge
  | cyclicNodes
  /-- Nothing stands at a path. -/
  | missingFile
  | nameTooLong
  /-- A directory stands where a file is to be written. -/
  | isDirectory
  /-- A file stands where a directory is needed. -/
  | fileExists
  | notDirectory
  deriving DecidableEq, Repr

/-- The wording of a fault, where it has one. -/
def Fault.message : Fault → Option String
  | .missing argument => some s!"{argument} must not be None"
  | .notText argument kind => some s!"{argument} must be a string, got {kind}"
  | .missingClassNames => some "class_names must not be None"
  | .classNamesAsText => some "class_names must be an iterable of names, not a single string"
  | .limitTooSmall shown => some s!"max_nodes_per_chunk must be a positive integer, got {shown}"
  | .emptyNodeId => some "Node id must be a non-empty string"
  | .blankTextNode => some "Text node value must not be blank"
  | .noPayloadShape => some "No payload shape defined for node type <NodeType.DOM: 'DOM'>"
  | .unknownKind name => some s!"{name} is not a valid NodeType"
  | .unknownBreakpoint name => some s!"{name} is not a valid Breakpoint"
  | _ => none

/-- The argument that breaks its contract, where a fault is a breach of contract. -/
def Fault.argument : Fault → Option String
  | .missing argument => some argument
  | .notText argument _ => some argument
  | .missingClassNames => some "class_names"
  | .classNamesAsText => some "class_names"
  | .limitTooSmall _ => some "max_nodes_per_chunk"
  | _ => none

end PageClip
