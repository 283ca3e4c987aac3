import FluentKotlin.Command.Request
import FluentKotlin.Document.Fault
import FluentKotlin.Generation.Generate

/-! # Endings of a run

A run ends with a code, the lines that it prints, and the lines that it has to say about the run. It
breaks off on a fault that is not about what it was asked to do.
-/

namespace FluentKotlin

inductive Breakdown where
  | document (e : DocumentError)
  | settings (e : SettingsError)
  | name (e : NameError)
  /-- The option for the destination has no value. -/
  | noDestination
  deriving Repr, Inhabited

inductive Ending where
  | done (code : Nat) (output messages : List String)
  | broken (cause : Breakdown)
  deriving Repr, Inhabited

namespace Ending

def failureCode : Nat := 1

def refusalCode : Nat := 2

def errorLine (text : String) : String := "error: " ++ text

def warningLine (text : String) : String := "warning: " ++ text

/-- The run does not do what it was asked to, after these messages. -/
def refused (messages : List String) (reason : String) : Ending :=
  .done refusalCode [] (messages ++ [errorLine reason])

def ofDocumentError (e : DocumentError) : Ending :=
  if e.isExplained then refused [] e.message else .broken (.document e)

def ofSettingsError (e : SettingsError) : Ending :=
  if e.isExplained then refused [] e.message else .broken (.settings e)

def logLine (place : String) (l : LogLine) : String :=
  l.level.word ++ " " ++ place ++ ": " ++ l.text

def ofGenerateError : Pass.GenerateError → Ending
  | .settings e => ofSettingsError e
  | .name e => .broken (.name e)

def logLines (j : Journal) : List String := j.lines.map (logLine programName)

end Ending

end FluentKotlin
