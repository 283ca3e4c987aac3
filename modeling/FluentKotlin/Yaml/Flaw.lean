import FluentKotlin.Yaml.ScalarError
import FluentKotlin.Yaml.Tag
import FluentKotlin.Yaml.Token

/-! # Flaws of a YAML text

Why a text is no YAML document, or a node of it has no value. A scalar that has no value is a flaw
of its own kind, because it is no fault of the notation, and so is a collection that lies too deep.
-/

namespace FluentKotlin.Yaml

inductive Flaw where
  | unprintable (code : Nat)
  | badDirective
  | badAnchor
  | badTag
  | badBlockHeader
  | badEscape
  | openQuote
  | separatorInQuotes
  /-- A line that has to hold a key has no colon. -/
  | missingColon
  | misplaced (c : Char)
  | noToken (c : Char)
  | unexpected (token : Option Token)
  | badVersion
  | repeatedDirective
  | unknownHandle (handle : String)
  | unknownAlias (name : String)
  | repeatedAnchor (name : String)
  | unknownTag (tag : Tag)
  | wrongKind
  | badKey
  | badMerge
  | badBytes
  /-- A collection lies in more collections than can be followed. -/
  | tooDeep
  | scalar (e : ScalarError)
  deriving DecidableEq, Repr, Inhabited

end FluentKotlin.Yaml
