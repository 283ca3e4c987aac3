/-! # Tokens of a YAML text

Marks, names and scalars of a text in their order. Indentation shows as tokens too: a block
collection has a token where it starts and one where it ends, and every key of a mapping has a
token in front of it, whether a mark stands there or not.
-/

namespace FluentKotlin.Yaml

inductive Directive where
  | version (major : Nat)
  | tagHandle (handle start : String)
  | other
  deriving DecidableEq, Repr, Inhabited

inductive Token where
  | directive (d : Directive)
  | documentStart
  | documentEnd
  | blockSequenceStart
  | blockMappingStart
  | blockEnd
  | flowSequenceStart
  | flowSequenceEnd
  | flowMappingStart
  | flowMappingEnd
  | blockEntry
  | flowEntry
  | key
  | value
  | aliasOf (name : String)
  | anchor (name : String)
  /-- The suffix of a tag, below a handle where it is not verbatim. -/
  | tag (handle : Option String) (suffix : String)
  | scalar (plain : Bool) (text : String)
  deriving DecidableEq, Repr, Inhabited

end FluentKotlin.Yaml
