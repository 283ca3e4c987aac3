import FluentKotlin.Document.TypeTree
import FluentKotlin.NameError
import FluentKotlin.Value.Written
import FluentKotlin.Yaml.Flaw

/-! # Faults of a document

Why a text or a value is no domain document. Most faults say what is wrong at which place of the
document. A fault of a name, of one scalar or of the frontmatter's own notation is passed on as it
is.
-/

namespace FluentKotlin

inductive DocumentError where
  | openFrontmatter
  | malformedFrontmatter (flaw : Yaml.Flaw)
  | frontmatterShape
  | malformed (flaw : Yaml.Flaw)
  | shape
  | scalar (e : Yaml.ScalarError)
  /-- The collections of the text lie too deep in each other. -/
  | tooDeep
  /-- A value that is needed as a text has none. -/
  | writing (e : WritingError)
  | notMapping (place : String)
  | notList (place : String)
  | notEntry (place : String)
  | missing (place : String)
  | mapGroup (domain : String)
  | notBoolean (place shown : String)
  | defaultValue (place : String)
  | duplicate (domain : String)
  /-- A transform that has an input is keyed by something else than a text. -/
  | transformKey (key : Scalar)
  | type (text : String) (e : TypeTextError)
  | name (e : NameError)
  deriving Repr, Inhabited

namespace DocumentError

/-- Whether the fault says what is wrong with the document. -/
def isExplained : DocumentError → Bool
  | malformedFrontmatter _ | scalar _ | tooDeep | writing _ | transformKey _ | name _ => false
  | _ => true

def message : DocumentError → String
  | openFrontmatter => "YAML frontmatter starts with '---' but no closing '---' was found."
  | malformedFrontmatter _ => "Frontmatter is not valid YAML"
  | frontmatterShape => "YAML frontmatter must be a mapping/object at the top level."
  | malformed _ => "Domain document is not valid YAML"
  | shape => "Domain document must be a mapping/object at the top level."
  | scalar e => e.message
  | tooDeep => "The document is nested too deep."
  | writing e => e.message
  | notMapping place => "`" ++ place ++ "` must be an object/mapping when provided."
  | notList place => "`" ++ place ++ "` must be a list when provided."
  | notEntry place => "`" ++ place ++ "` must be an object/mapping."
  | missing place => "`" ++ place ++ "` is required."
  | mapGroup domain => "`" ++ domain ++ ".mapGroup` must be one of NONE, SINGLE, LIST, ALL."
  | notBoolean place shown => "`" ++ place ++ "` must be a boolean, got " ++ shown
  | defaultValue place =>
    "`" ++ place ++ ".default.value` is required when `default` is an object."
  | duplicate domain => "Domain `" ++ domain ++ "` is declared more than once."
  | transformKey key => "the key " ++ key.quoted ++ " is in no package"
  | type text e => e.message text
  | name e => e.message

end DocumentError

end FluentKotlin
