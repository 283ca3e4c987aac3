import FluentKotlin.Text.Quoted

/-! # Errors in names

The ways in which a name that a caller gives can fail to denote anything.
-/

namespace FluentKotlin

inductive NameError where
  /-- A class was to be made without any simple name. -/
  | noSimpleName
  /-- The text holds no segment between dots. -/
  | invalid (text : String)
  | unknownNumeric (name : String)
  | unknownMapGroup (text : String)
  | unknownModifier (word : String)
  deriving DecidableEq, Repr, Inhabited

def NameError.message : NameError → String
  | noSimpleName => "ClassName requires at least one simple name"
  | invalid text => "Invalid qualified name: " ++ Text.quoted text
  | unknownNumeric name => "Unknown numeric type: " ++ name
  | unknownMapGroup text => Text.quoted text ++ " is not a valid MapGroupType"
  | unknownModifier word => Text.quoted word ++ " is not a valid Modifier"

end FluentKotlin
