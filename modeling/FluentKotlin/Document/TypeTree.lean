import FluentKotlin.Document.TypeToken
import FluentKotlin.Text.Quoted

/-! # Type texts

The text of a type is a name, with type texts between angle brackets where it has arguments, and a
question mark where it is nullable. The tokens are read one by one. The reader holds the types
whose argument lists are open, and where it stands in the innermost of them. Unlike the collections
of a YAML text, the arguments of a type can lie in each other at any depth.
-/

namespace FluentKotlin

inductive TypeTree where
  | node (name : TypeToken) (arguments : List TypeTree) (nullable : Bool)
  deriving Repr, Inhabited

inductive TypeTextError where
  | empty
  | missingName
  | notName (token : TypeToken)
  | missingClose
  | unexpected (token : TypeToken)
  deriving DecidableEq, Repr, Inhabited

def TypeTextError.message (text : String) : TypeTextError → String
  | empty => "Type must not be empty."
  | missingName => "Invalid type " ++ Text.quoted text ++ ": expected a type name"
  | notName token =>
    "Invalid type " ++ Text.quoted text ++ ": expected a type name, got " ++ Text.quoted token.text
  | missingClose => "Invalid type " ++ Text.quoted text ++ ": expected >"
  | unexpected token =>
    "Invalid type " ++ Text.quoted text ++ ": unexpected " ++ Text.quoted token.text

namespace TypeTree

def nullable : TypeTree → Bool
  | node _ _ n => n

/-- A type whose argument list is open, with the arguments so far. -/
structure Open where
  name : TypeToken
  arguments : List TypeTree
  deriving Repr

inductive Position where
  /-- A type has to start here. -/
  | start
  | afterName (name : TypeToken)
  | afterArguments (name : TypeToken) (arguments : List TypeTree)
  | complete (tree : TypeTree)
  deriving Repr

structure Reader where
  enclosing : List Open
  position : Position
  deriving Repr

def Reader.initial : Reader := ⟨[], .start⟩

/-- Go on after a complete type. -/
def resume (enclosing : List Open) (tree : TypeTree) (token : TypeToken) :
    Except TypeTextError Reader :=
  match enclosing, token with
  | o :: os, .mark ',' => .ok ⟨⟨o.name, o.arguments ++ [tree]⟩ :: os, .start⟩
  | o :: os, .mark '>' => .ok ⟨os, .afterArguments o.name (o.arguments ++ [tree])⟩
  | _ :: _, _ => .error .missingClose
  | [], token => .error (.unexpected token)

def Reader.step (r : Reader) (token : TypeToken) : Except TypeTextError Reader :=
  match r.position, token with
  | .start, token =>
    if token.isName then .ok ⟨r.enclosing, .afterName token⟩ else .error (.notName token)
  | .afterName name, .mark '<' => .ok ⟨⟨name, []⟩ :: r.enclosing, .start⟩
  | .afterName name, .mark '?' => .ok ⟨r.enclosing, .complete (.node name [] true)⟩
  | .afterName name, token => resume r.enclosing (.node name [] false) token
  | .afterArguments name arguments, .mark '?' =>
    .ok ⟨r.enclosing, .complete (.node name arguments true)⟩
  | .afterArguments name arguments, token =>
    resume r.enclosing (.node name arguments false) token
  | .complete tree, token => resume r.enclosing tree token

def Position.tree? : Position → Option TypeTree
  | .start => none
  | .afterName name => some (.node name [] false)
  | .afterArguments name arguments => some (.node name arguments false)
  | .complete tree => some tree

def Reader.finish (r : Reader) : Except TypeTextError TypeTree :=
  match r.position.tree?, r.enclosing with
  | none, _ => .error .missingName
  | some _, _ :: _ => .error .missingClose
  | some tree, [] => .ok tree

def run : Reader → List TypeToken → Except TypeTextError TypeTree
  | r, [] => r.finish
  | r, token :: tokens =>
    match r.step token with
    | .ok next => run next tokens
    | .error e => .error e

def ofTokens (tokens : List TypeToken) : Except TypeTextError TypeTree :=
  run .initial tokens

def ofText (text : String) : Except TypeTextError TypeTree :=
  if Text.trim text = "" then .error .empty else ofTokens (TypeToken.scan text.toList)

end TypeTree

end FluentKotlin
