/-! The tokens of a YAML text: indicators, names and scalars, with the block structure made explicit by
tokens that open and close a block. -/

namespace CecBus.Yaml

/-- How a scalar is written. -/
inductive Style where
  | plain
  | singleQuoted
  | doubleQuoted
  | literal
  | folded
  deriving DecidableEq, Repr

/-- One token. -/
inductive Token where
  | versionDirective (major minor : Nat)
  | tagDirective (handle : List Char) (target : List UInt8)
  | documentStart
  | documentEnd
  | blockSequenceStart
  | blockMappingStart
  | blockEnd
  | flowSequenceStart
  | flowSequenceEnd
  | flowMappingStart
  | flowMappingEnd
  | blockEntry
  | flowEntry
  | key
  | value
  | alias (name : String)
  | anchor (name : String)
  | tag (handle : List Char) (suffix : List UInt8)
  | scalar (style : Style) (text : String)
  deriving DecidableEq, Repr

end CecBus.Yaml
