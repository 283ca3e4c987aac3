import FluentKotlin.Command.Option
import FluentKotlin.Text.Blank
import FluentKotlin.Text.Lines
import FluentKotlin.Text.Quoted

/-! # Faults of a command line

Why the words of a command line are no request. A fault is reported in the name of the program or
of the command that was given.
-/

namespace FluentKotlin

inductive UsageFault where
  | noCommand
  | unknownCommand (word : String)
  | noDomainFile
  | noValue (o : CommandOption)
  /-- A value is given to an option that takes none. -/
  | extraValue (o : CommandOption) (value : String)
  | ambiguous (word : String) (names : List String)
  | unrecognized (words : List String)
  deriving DecidableEq, Repr, Inhabited

namespace UsageFault

def required (name : String) : String := "the following arguments are required: " ++ name

def argument (name text : String) : String := "argument " ++ name ++ ": " ++ text

def choices : String :=
  String.intercalate ", " (CommandName.all.map fun c => Text.quoted c.word)

def text : UsageFault → String
  | noCommand => required "command"
  | unknownCommand word =>
    argument "command"
      ("invalid choice: " ++ Text.quoted word ++ " (choose from " ++ choices ++ ")")
  | noDomainFile => required "domain_file"
  | noValue o => argument o.label "expected one argument"
  | extraValue o value => argument o.label ("ignored explicit argument " ++ Text.quoted value)
  | ambiguous word names =>
    "ambiguous option: " ++ word ++ " could match " ++ String.intercalate ", " names
  | unrecognized words => "unrecognized arguments: " ++ String.intercalate " " words

end UsageFault

structure UsageError where
  command : Option CommandName
  fault : UsageFault
  deriving DecidableEq, Repr, Inhabited

def programName : String := "dslgen"

namespace UsageError

def speaker : Option CommandName → String
  | none => programName
  | some c => programName ++ " " ++ c.word

def message (e : UsageError) : String := speaker e.command ++ ": error: " ++ e.fault.text

/-- The last line of the message, which is all that is shown of it. -/
def line (e : UsageError) : String := (Text.lines (Text.trim e.message)).getLastD ""

end UsageError

end FluentKotlin
