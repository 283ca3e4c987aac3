import FluentKotlin.Command.Word
import FluentKotlin.Value.Basic

/-! # Requests

A command line asks for a command on a domain file, with options before or after the file, or for
help. Of an option that is given more than once the last value counts. Words that nothing takes are
a fault once everything else is there.
-/

namespace FluentKotlin

/-- The value of an option. A divider behind an equals sign is left out, and nothing is left. -/
inductive OptionValue where
  | text (s : String)
  | nothing
  deriving DecidableEq, Repr, Inhabited

namespace OptionValue

def ofText (s : String) : OptionValue := if s = "--" then nothing else text s

def value : OptionValue → Value
  | text s => .text s
  | nothing => .list []

end OptionValue

/-- What the words of a command give. -/
structure Given where
  domainFile : Option String := none
  /-- The options in their order. One that takes no value has none. -/
  options : List (CommandOption × OptionValue) := []
  /-- The words that nothing takes. -/
  others : List String := []
  deriving Repr, Inhabited

namespace Given

def addOption (o : CommandOption) (value : OptionValue) (g : Given) : Given :=
  { g with options := g.options ++ [(o, value)] }

def addOther (word : String) (g : Given) : Given := { g with others := g.others ++ [word] }

/-- What a value of the option for help says besides its letter again. -/
def surplus (name value : String) : Option String :=
  if value = "" ∨ Text.startsWith "--" name then some value
  else
    match value.toList.dropWhile (· == 'h') with
    | [] => none
    | rest => some (String.ofList rest)

/-- Help is asked for, unless the option has a value. -/
def checkHelp (name : String) (value : Option String) : Except UsageFault Unit :=
  match value.bind (surplus name) with
  | some extra => .error (.extraValue .help extra)
  | none => .ok ()

/-- Take the words one after the other, none where help is asked for. The first plain word is the
domain file, and a divider next to it is left out. -/
def take (g : Given) : List Word → Except UsageFault (Option Given)
  | [] => .ok (some g)
  | .unknown s :: ws => take (g.addOther s) ws
  | .divider :: ws =>
    match g.domainFile, ws with
    | none, .plain s :: rest => take { g with domainFile := some s } rest
    | _, ws => take (g.addOther "--") ws
  | .plain s :: ws =>
    match g.domainFile, ws with
    | some _, ws => take (g.addOther s) ws
    | none, .divider :: rest => take { g with domainFile := some s } rest
    | none, ws => take { g with domainFile := some s } ws
  | .option o name value :: ws =>
    if o = .help then (checkHelp name value).map fun _ => none
    else match o.takesValue, value, ws with
      | true, some v, ws => take (g.addOption o (.ofText v)) ws
      | true, none, .plain v :: rest => take (g.addOption o (.text v)) rest
      | true, none, _ => .error (.noValue o)
      | false, some v, _ => .error (.extraValue o v)
      | false, none, ws => take (g.addOption o .nothing) ws

end Given

structure Request where
  command : CommandName
  domainFile : String
  options : List (CommandOption × OptionValue) := []
  deriving Repr, Inhabited

namespace Request

def has (r : Request) (o : CommandOption) : Bool := r.options.any (·.1 == o)

/-- The last value that an option was given. -/
def value? (r : Request) (o : CommandOption) : Option OptionValue := r.options.reverse.lookup o

/-- The words that the program itself takes before the command. -/
structure Leading where
  others : List String := []
  command : String
  rest : List String

/-- Go to the command, none where help is asked for before it. -/
def lead (others : List String) : List String → Except UsageFault (Option Leading)
  | [] => .error .noCommand
  | s :: ss =>
    if s = "--" then
      .error (if ss.isEmpty then .noCommand else .unknownCommand s)
    else do
      match ← Word.ofString [.help] s with
      | .unknown s => lead (others ++ [s]) ss
      | .option _ name value =>
        Given.checkHelp name value
        return none
      | _ => return some ⟨others, s, ss⟩

def ofWords (c : CommandName) (words : List String) : Except UsageFault (Option Given) := do
  let ws ← Word.ofStrings c.options words
  match ← Given.take {} ws with
  | none => return none
  | some g => if g.domainFile.isSome then return some g else throw .noDomainFile

def inNameOf {α : Type} (c : Option CommandName) (x : Except UsageFault α) :
    Except UsageError α :=
  x.mapError fun fault => ⟨c, fault⟩

/-- The request that the words of a command line make, none where they ask for help. -/
def ofArguments (words : List String) : Except UsageError (Option Request) := do
  match ← inNameOf none (lead [] words) with
  | none => return none
  | some l =>
    match CommandName.ofWord? l.command with
    | none => throw ⟨none, .unknownCommand l.command⟩
    | some c =>
      match ← inNameOf (some c) (ofWords c l.rest) with
      | none => return none
      | some g =>
        let others := l.others ++ g.others
        if others.isEmpty then return some ⟨c, g.domainFile.getD "", g.options⟩
        else throw ⟨none, .unrecognized others⟩

end Request

end FluentKotlin
