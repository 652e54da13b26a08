/-!
# YAML tokens

The pieces of a document, with the starts and ends of blocks that indentation stands for made plain.

Every scalar keeps its style, since only plain ones may stand for anything but text.
-/

namespace Fleet.Yaml

/-- How a scalar is written. -/
inductive Style where
  | plain
  | single
  | double
  | literal
  | folded
  deriving Repr, DecidableEq

/-- A piece of a document. -/
inductive Token where
  | version (major minor : Nat)
  /-- A shorthand for tags. -/
  | shorthand (handle expansion : String)
  | documentStart
  | documentEnd
  | sequenceBlock
  | mappingBlock
  | blockEnd
  | openSequence
  | closeSequence
  | openMapping
  | closeMapping
  | entry
  | comma
  | key
  | value
  | alias (name : String)
  | anchor (name : String)
  | tag (handle suffix : String)
  | scalar (text : String) (style : Style)
  | finish
  deriving Repr, DecidableEq

end Fleet.Yaml
