import FluentKotlin.Document.Fault
import FluentKotlin.Settings

/-! # Fields of a document

How the entries of a mapping are read. A field that is missing is read as null, and null stands for
an empty text, mapping or list and for false. A collection that contains itself is opened first.
-/

namespace FluentKotlin

abbrev Entries := List (Scalar × Value)

abbrev Describing := Except DocumentError

def shown (v : Value) : Describing String := v.shown.mapError .writing

/-- The text of a value without white space around it, empty for what stands for nothing. -/
def textOf (v : Value) : Describing String := do
  if v.isVoid then return "" else return Text.trim (← shown v)

def textField (key : String) (entries : Entries) : Describing String :=
  textOf (fieldOrNull key entries)

def requiredText (place key : String) (entries : Entries) : Describing String := do
  let s ← textField key entries
  if s = "" then throw (.missing (place ++ "." ++ key)) else return s

def mappingOf (place : String) (v : Value) : Describing Entries :=
  match v.opened with
  | .scalar .null => .ok []
  | .mapping entries => .ok entries
  | _ => .error (.notMapping place)

def itemsOf (place : String) (v : Value) : Describing (List Value) :=
  match v.opened with
  | .scalar .null => .ok []
  | .list items => .ok items
  | _ => .error (.notList place)

def mappingField (key : String) (entries : Entries) : Describing Entries :=
  mappingOf key (fieldOrNull key entries)

/-- The entries of an item of a list, which has to be a mapping. -/
def entryOf (place : String) (v : Value) : Describing Entries :=
  match v.opened with
  | .mapping entries => .ok entries
  | _ => .error (.notEntry place)

def flagField (place key : String) (entries : Entries) : Describing Bool := do
  let v := fieldOrNull key entries
  let _ ← shown v
  match truth? ["true", "yes", "1"] ["false", "no", "0", ""] v with
  | some b => .ok b
  | none => .error (.notBoolean (place ++ "." ++ key) v.quoted)

/-- The place of an item in a list. -/
def itemPlace (place : String) (index : Nat) : String :=
  place ++ "[" ++ writtenNat index ++ "]"

end FluentKotlin
