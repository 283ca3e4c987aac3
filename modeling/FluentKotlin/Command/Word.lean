import FluentKotlin.Command.Usage
import FluentKotlin.Text.Digit

/-! # Words of a command line

A word that starts with a dash names an option, in full or by a beginning that fits no other option.
A value may stand behind an equals sign. A dash alone, a negative number and a word with a space
are plain, and so is every word after a divider of two dashes.
-/

namespace FluentKotlin

inductive Word where
  | plain (text : String)
  | divider
  | option (o : CommandOption) (name : String) (value : Option String)
  | unknown (text : String)
  deriving DecidableEq, Repr, Inhabited

namespace Word

/-- The text before the first equals sign, and the text after it if there is one. -/
def splitValue (s : String) : String × Option String :=
  let name := s.toList.takeWhile (· != '=')
  match s.toList.drop name.length with
  | [] => (s, none)
  | _ :: value => (String.ofList name, some (String.ofList value))

def inFull? (options : List CommandOption) (name : String) : Option CommandOption :=
  options.find? (·.names.contains name)

/-- A minus with digits of any script, which may have a point in front or between them. A line feed
at the end does not count. -/
def isNegativeNumber (cs : List Char) : Bool :=
  match if cs.getLast? == some '\n' then cs.dropLast else cs with
  | '-' :: cs =>
    let whole := cs.takeWhile Text.isDecimalDigit
    match cs.drop whole.length with
    | [] => !whole.isEmpty
    | '.' :: part => !part.isEmpty && part.all Text.isDecimalDigit
    | _ => false
  | _ => false

/-- The options that a word of two dashes can mean. -/
def longMatches (options : List CommandOption) (s : String) : List Word :=
  let (start, value) := splitValue s
  (CommandOption.withName (Text.startsWith start) options).map fun (o, name) =>
    option o name value

/-- The options that a word of one dash can mean: the letter after it is the name, and the rest the
value. -/
def shortMatches (options : List CommandOption) (s : String) : List Word :=
  let name := String.ofList (s.toList.take 2)
  (CommandOption.withName (· == name) options).map fun (o, name) =>
    option o name (some (String.ofList (s.toList.drop 2)))

def candidates (options : List CommandOption) (s : String) : List Word :=
  if Text.startsWith "--" s then longMatches options s else shortMatches options s

def optionName : Word → String
  | option _ name _ => name
  | plain s | unknown s => s
  | divider => "--"

/-- A word that is no option in full. -/
def ofPart (options : List CommandOption) (s : String) : Except UsageFault Word :=
  match candidates options s with
  | [w] => .ok w
  | [] =>
    if isNegativeNumber s.toList || Text.contains ' ' s then .ok (plain s) else .ok (unknown s)
  | ws => .error (.ambiguous s (ws.map optionName))

def ofFull? (options : List CommandOption) (s : String) : Option Word :=
  match inFull? options s with
  | some o => some (option o s none)
  | none =>
    match splitValue s with
    | (name, some value) => (inFull? options name).map fun o => option o name (some value)
    | _ => none

/-- What a word before any divider means among these options. -/
def ofString (options : List CommandOption) (s : String) : Except UsageFault Word :=
  if !Text.startsWith "-" s || s == "-" then .ok (plain s)
  else match ofFull? options s with
    | some w => .ok w
    | none => ofPart options s

def ofStrings (options : List CommandOption) : List String → Except UsageFault (List Word)
  | [] => .ok []
  | s :: ss =>
    if s = "--" then .ok (divider :: ss.map plain)
    else do
      let w ← ofString options s
      let ws ← ofStrings options ss
      return w :: ws

end Word

end FluentKotlin
