import PageSelectors.Yaml.Address

/-!
YAML tokens. Block collections have tokens for their start and end, which the text shows by
indentation alone; a key has one in front of it also where the text has no question mark.
-/

namespace PageSelectors.Yaml

inductive Style where
  | plain
  | quoted
  | literal
  | folded
  deriving DecidableEq, Repr

inductive Token where
  | version (major minor : Nat)
  | handle (name : String) (expansion : Address)
  | documentStart
  | documentEnd
  | blockSequence
  | blockMapping
  | blockEnd
  | sequenceStart
  | sequenceEnd
  | mappingStart
  | mappingEnd
  | item
  | comma
  | key
  | value
  | reference (name : String)
  | anchor (name : String)
  | tag (handle : String) (suffix : Address)
  | scalar (style : Style) (text : String)
  deriving DecidableEq, Repr

end PageSelectors.Yaml
