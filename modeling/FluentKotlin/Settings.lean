import FluentKotlin.Text.Blank
import FluentKotlin.Text.Lower
import FluentKotlin.Value.Written

/-! # Settings

What a pass needs to know besides its domains. The package of the project and that of the builder
contract are required, and all texts are taken without the white space around them.
-/

namespace FluentKotlin

structure Settings where
  projectRoot : String
  contractPackage : String
  rootFileOverride : Option String := none
  marker : Option String := none
  isIgnored : Bool := false
  deriving DecidableEq, Repr, Inhabited

inductive SettingsError where
  | missing (key : String)
  | notBoolean (key : String) (shown : String)
  /-- The value of a setting has no text. -/
  | value (e : WritingError)
  deriving DecidableEq, Repr, Inhabited

def SettingsError.message : SettingsError → String
  | missing key => key ++ " is missing"
  | notBoolean key shown => "`" ++ key ++ "` must be a boolean, got " ++ shown
  | value e => e.message

/-- Whether the fault is about the settings and not about one value. -/
def SettingsError.isExplained : SettingsError → Bool
  | value _ => false
  | _ => true

/-- The truth value that a word stands for, in letters of either case. -/
def wordTruth? (yes no : List String) (v : Value) : Option Bool :=
  let word := Text.lower (Text.trim v.written)
  if word ∈ yes then some true else if word ∈ no then some false else none

/-- The truth value of a setting: its own, false for null, and else that of its word. -/
def truth? (yes no : List String) : Value → Option Bool
  | .scalar (.bool b) => some b
  | .scalar .null => some false
  | v => wordTruth? yes no v

namespace Settings

def shown (v : Value) : Except SettingsError String := v.shown.mapError .value

def text? (key : String) (options : List (Scalar × Value)) :
    Except SettingsError (Option String) := do
  match fieldOrNull key options with
  | .scalar .null => return none
  | v => do
    let s := Text.trim (← shown v)
    return if s = "" then none else some s

def required (key : String) (options : List (Scalar × Value)) : Except SettingsError String := do
  match ← text? key options with
  | some s => return s
  | none => throw (.missing key)

def flag (key : String) (options : List (Scalar × Value)) : Except SettingsError Bool := do
  let v := fieldOrNull key options
  let _ ← shown v
  match truth? ["true", "1", "yes", "on"] ["false", "0", "no", "off", ""] v with
  | some b => .ok b
  | none => .error (.notBoolean key v.quoted)

def ofOptions (options : List (Scalar × Value)) : Except SettingsError Settings := do
  let projectRoot ← required "projectRootClasspath" options
  let contractPackage ← required "dslBuilderClasspath" options
  let rootFileOverride ← text? "rootDslFileClasspath" options
  let marker ← text? "dslMarkerClass" options
  let isIgnored ← flag "isIgnored" options
  return { projectRoot, contractPackage, rootFileOverride, marker, isIgnored }

def rootFilePackage (s : Settings) : String := s.rootFileOverride.getD s.projectRoot

end Settings

end FluentKotlin
