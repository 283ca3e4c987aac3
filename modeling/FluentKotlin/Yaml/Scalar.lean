import FluentKotlin.Yaml.Flaw
import FluentKotlin.Yaml.Number
import FluentKotlin.Yaml.Sextet
import FluentKotlin.Yaml.Stamp

/-! # Values of scalars

The tag of a scalar says how its text is read. A text that is not written in the way of its tag has
no value, and neither has a scalar whose tag is for collections, for keys or for nothing known.
-/

namespace FluentKotlin.Yaml.Tag

def truthWords : List (String × Bool) :=
  [("yes", true), ("no", false), ("true", true), ("false", false), ("on", true), ("off", false)]

def truthOf (text : String) : Except ScalarError Bool :=
  let word := Text.lower text
  match truthWords.lookup word with
  | some b => .ok b
  | none => .error (.notTruth word)

/-- The value of a scalar with a tag. -/
def scalarOf (tag : Tag) (text : String) : Except Flaw Scalar :=
  match tag with
  | .null => .ok .null
  | .bool => ((truthOf text).map .bool).mapError .scalar
  | .int => ((integerOf text).map .int).mapError .scalar
  | .float => ((numberOf text).map .float).mapError .scalar
  | .time => (timeOf text).mapError .scalar
  | .bytes =>
    match bytesOf? text with
    | some bs => .ok (.bytes bs)
    | none => .error .badBytes
  | .text => .ok (.text text)
  | tag => .error (.unknownTag tag)

end FluentKotlin.Yaml.Tag
