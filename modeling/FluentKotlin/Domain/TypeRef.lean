import FluentKotlin.Domain.MapGroup
import FluentKotlin.Kotlin.TypeName

/-! # Type references

The type of a property as the domain description gives it: its kind, its qualified name, its
arguments, and whether it is a described domain itself. A reference denotes a type name. The null
mark of a reference matters for arguments, while a property carries its own.
-/

namespace FluentKotlin

inductive TypeKind where
  | boolean
  | numeric
  | string
  | char
  | collection
  | map
  | nominal
  deriving DecidableEq, Repr, Inhabited

def TypeKind.name : TypeKind → String
  | boolean => "boolean"
  | numeric => "numeric"
  | string => "string"
  | char => "char"
  | collection => "collection"
  | map => "map"
  | nominal => "nominal"

structure TypeRef where
  kind : TypeKind
  name : String := ""
  qualifiedName : Option String := none
  arguments : List TypeRef := []
  generable : Bool := false
  listGroup : Bool := false
  mapGroup : MapGroup := .none
  nullable : Bool := false
  deriving Repr, Inhabited

def listName : String := "kotlin.collections.List"

def mapName : String := "kotlin.collections.Map"

/-- The first text unless it is missing or empty, else the second. -/
def textOr (first : Option String) (second : String) : String :=
  match first with
  | some s => if s = "" then second else s
  | none => second

namespace TypeRef

def scalar (kind : TypeKind) (name : String) : TypeRef :=
  { kind, name, qualifiedName := some ("kotlin." ++ name) }

def boolean : TypeRef := scalar .boolean "Boolean"

def string : TypeRef := scalar .string "String"

def char : TypeRef := scalar .char "Char"

def numeric (name : String) : Except NameError TypeRef :=
  if name ∈ numericNames then .ok (scalar .numeric name) else .error (.unknownNumeric name)

def collection (element : TypeRef) : TypeRef :=
  { kind := .collection, name := "List", qualifiedName := some listName, arguments := [element] }

def map (key value : TypeRef) : TypeRef :=
  { kind := .map, name := "Map", qualifiedName := some mapName, arguments := [key, value] }

def nominal (qualifiedName : String) (arguments : List TypeRef) : TypeRef :=
  { kind := .nominal, name := Text.lastSegment qualifiedName, qualifiedName := some qualifiedName,
    arguments }

/-- A reference to a described domain with its group modes. -/
def generated (qualifiedName : String) (listGroup : Bool) (mapGroup : MapGroup)
    (arguments : List TypeRef) : TypeRef :=
  { nominal qualifiedName arguments with generable := true, listGroup, mapGroup }

def withNullable (r : TypeRef) (nullable : Bool) : TypeRef := { r with nullable }

def isGroupElement (r : TypeRef) : Bool := r.kind == .nominal && r.generable && r.listGroup

def isMapGroupValue (r : TypeRef) : Bool :=
  r.kind == .nominal && r.generable && r.mapGroup.active

def classText (kind : TypeKind) (name : String) (qualifiedName : Option String) : String :=
  textOr qualifiedName (if kind = .nominal then name else "kotlin." ++ name)

def className (r : TypeRef) : Except NameError ClassName :=
  ClassName.ofQualified (classText r.kind r.name r.qualifiedName)

/-- A list of one argument and a map of two are types of the standard library, whatever name the
reference gives. -/
def isContainer (kind : TypeKind) (arity : Nat) : Bool :=
  (kind == .collection && arity == 1) || (kind == .map && arity == 2)

def containerClass (kind : TypeKind) : ClassName :=
  collectionsClass (if kind = .collection then "List" else "Map")

/-- A class with type arguments, if there are any. -/
def applyAll (raw : ClassName) (arguments : List TypeName) : TypeName :=
  if arguments.isEmpty then .named raw else .apply raw arguments

mutual

/-- The type that the reference denotes, without its own null mark. -/
def bareType : TypeRef → Except NameError TypeName
  | ⟨kind, name, qualifiedName, arguments, _, _, _, _⟩ =>
    if isContainer kind arguments.length then do
      let types ← argumentTypes arguments
      return .apply (containerClass kind) types
    else do
      let raw ← ClassName.ofQualified (classText kind name qualifiedName)
      let types ← argumentTypes arguments
      return applyAll raw types

def argumentTypes : List TypeRef → Except NameError (List TypeName)
  | [] => .ok []
  | r :: rs => do
    let t ← bareType r
    let ts ← argumentTypes rs
    return t.withNullable r.nullable :: ts

end

def typeAs (r : TypeRef) (nullable : Bool) : Except NameError TypeName :=
  r.bareType.map (·.withNullable nullable)

def typeName (r : TypeRef) : Except NameError TypeName := r.typeAs r.nullable

end TypeRef

end FluentKotlin
