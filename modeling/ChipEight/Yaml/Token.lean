/-
# Tokens

The words and indicators that a document is made of. Indentation has been turned into tokens: a
collection that is told by its indentation has a token at its start and one at its end.
-/
import ChipEight.Yaml.Tag

namespace ChipEight.Yaml

/-- How a scalar is written. -/
inductive Style where
  | plain
  | singleQuoted
  | doubleQuoted
  | literal
  | folded
  deriving DecidableEq, Repr

/-- A token of a document. -/
inductive Token where
  /-- A directive that names the version of the language. -/
  | version (major minor : Nat)
  /-- A directive that declares a tag handle. -/
  | tagHandle (handle : String) (stem : Tag)
  /-- The marker in front of a document. -/
  | documentStart
  /-- The marker behind a document. -/
  | documentEnd
  /-- A sequence told by its indentation begins. -/
  | blockSequenceStart
  /-- A mapping told by its indentation begins. -/
  | blockMappingStart
  /-- A collection told by its indentation ends. -/
  | blockEnd
  /-- An opening square bracket. -/
  | flowSequenceStart
  /-- A closing square bracket. -/
  | flowSequenceEnd
  /-- An opening brace. -/
  | flowMappingStart
  /-- A closing brace. -/
  | flowMappingEnd
  /-- The hyphen of an entry. -/
  | blockEntry
  /-- The comma between entries. -/
  | flowEntry
  /-- A key comes next. -/
  | key
  /-- A value comes next. -/
  | value
  /-- A reference to an anchor. -/
  | reference (name : String)
  /-- The name of the node that comes next. -/
  | anchor (name : String)
  /-- The tag of the node that comes next. -/
  | tag (handle : String) (suffix : Tag)
  /-- A scalar. -/
  | scalar (style : Style) (text : String)
  deriving DecidableEq, Repr

end ChipEight.Yaml
