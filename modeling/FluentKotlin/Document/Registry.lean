import FluentKotlin.Document.TypeTree
import FluentKotlin.Domain.Basic

/-! # Names of a document

A document registers its domains by name. A name in a type text denotes a type of the standard
library, else the domain that is registered under it, else a type in the package of the domain
that mentions it.
-/

namespace FluentKotlin

abbrev Registry := List (String × DomainType)

def scalarRef? (name : String) : Option TypeRef :=
  if name = "Boolean" then some .boolean
  else if name = "String" then some .string
  else if name = "Char" then some .char
  else if name ∈ numericNames then some (.scalar .numeric name)
  else none

def isListName (name : String) : Bool := name == "List" || name == listName

def isMapName (name : String) : Bool := name == "Map" || name == mapName

/-- A name without a dot, or one below the package of the standard library. -/
def isStandard (name : String) : Bool :=
  name == Text.lastSegment name || Text.startsWith "kotlin." name

/-- The scalar, list or map of the standard library that a name denotes with its arguments. -/
def standardRef? (name : String) (arguments : List TypeRef) : Option TypeRef :=
  let simple := Text.lastSegment name
  match (if isStandard name && arguments.isEmpty then scalarRef? simple else none) with
  | some r => some r
  | none =>
    if isListName name then
      match arguments with
      | [element] => some (.collection element)
      | _ => some (.nominal ("kotlin.collections." ++ simple) arguments)
    else if isMapName name then
      match arguments with
      | [key, value] => some (.map key value)
      | _ => some (.nominal ("kotlin.collections." ++ simple) arguments)
    else none

/-- A name without a dot belongs to the package. -/
def qualify (package name : String) : String :=
  if Text.contains '.' name || package = "" then name else package ++ "." ++ name

def domainRef (registry : Registry) (package name : String) (arguments : List TypeRef) : TypeRef :=
  match registry.lookup name with
  | some d => .generated d.qualifiedName d.listGroup d.mapGroup arguments
  | none => .nominal (qualify package name) arguments

def resolveName (registry : Registry) (package name : String) (arguments : List TypeRef) :
    TypeRef :=
  (standardRef? name arguments).getD (domainRef registry package name arguments)

mutual

/-- The reference that a type text denotes. The null mark of the whole is left out. -/
def TypeTree.resolve (registry : Registry) (package : String) : TypeTree → TypeRef
  | .node name arguments _ =>
    resolveName registry package name.text (resolveArguments registry package arguments)

def resolveArguments (registry : Registry) (package : String) : List TypeTree → List TypeRef
  | [] => []
  | t :: ts =>
    (t.resolve registry package).withNullable t.nullable :: resolveArguments registry package ts

end

/-- The reference that a text denotes, and whether the text is marked nullable. -/
def readType (registry : Registry) (package text : String) :
    Except TypeTextError (TypeRef × Bool) := do
  let tree ← TypeTree.ofText text
  return (tree.resolve registry package, tree.nullable)

end FluentKotlin
