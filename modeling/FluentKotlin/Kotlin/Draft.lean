import FluentKotlin.Kotlin.Import

/-! # Drafts of declarations

A declaration is drafted step by step and then built. A step that would break a rule is an error
and leaves the draft as it was: a type is given once, a declaration has at most one access
modifier, and a file has one name. Building demands a name, and a type where the declaration has
one.
-/

namespace FluentKotlin

inductive DraftKind where
  | property
  | parameter
  | function
  | type
  | typeAlias
  | file
  deriving DecidableEq, Repr, Inhabited

def DraftKind.title : DraftKind → String
  | property => "Property"
  | parameter => "Parameter"
  | function => "Fun"
  | type => "Type"
  | typeAlias => "TypeAlias"
  | file => "File"

inductive DeclError where
  | typeGiven (kind : DraftKind) (name : Option String) (type : TypeName)
  | fileNamed (className : ClassName)
  | secondAccess (kind : DraftKind) (name : Option String) (first : Modifier)
  | missingName (kind : DraftKind)
  | missingType (kind : DraftKind) (name : Option String)
  | missingFileName
  | importConflict (package : String) (conflict : ImportConflict)
  /-- A template uses a percent sign otherwise than it may. -/
  | badTemplate (property template found : String)
  deriving Repr, Inhabited

def nameOrUnnamed : Option String → String
  | some name => if name = "" then "<unnamed>" else name
  | none => "<unnamed>"

namespace DeclError

def conflictMessage (package : String) : ImportConflict → String
  | .twoPackages name first second =>
    name ++ " is imported from both " ++ first ++ " and " ++ second
  | .shadowing other name =>
    "imported " ++ other ++ "." ++ name ++ " shadows " ++ package ++ "." ++ name

def message : DeclError → String
  | typeGiven kind name type =>
    kind.title ++ " " ++ nameOrUnnamed name ++ ": type already set: " ++ type.written
  | fileNamed className => "File - class name already set: " ++ className.written
  | secondAccess kind name first =>
    kind.title ++ " " ++ nameOrUnnamed name ++ ": access modifier already set to " ++ first.word
  | missingName kind => kind.title ++ " - name must be set"
  | missingType kind name => kind.title ++ " " ++ nameOrUnnamed name ++ " - type must be set"
  | missingFileName => "File - class name must be set"
  | importConflict package conflict =>
    "File " ++ package ++ ": " ++ conflictMessage package conflict
  | badTemplate property template found =>
    "Property " ++ property ++ ": transform template " ++ Text.quoted template
      ++ " may only use %N and %%, found %" ++ found

end DeclError

/-- What every draft but that of a file has. -/
structure DraftHead where
  name : Option String := none
  modifiers : List Modifier := []
  deriving Inhabited

namespace DraftHead

def access? (h : DraftHead) : Option Modifier := h.modifiers.find? (·.isAccess)

def addModifier (kind : DraftKind) (m : Modifier) (h : DraftHead) :
    Except DeclError DraftHead :=
  match (if m.isAccess then h.access? else none) with
  | some first => .error (.secondAccess kind h.name first)
  | none => .ok { h with modifiers := h.modifiers ++ [m] }

def withName (name : String) (h : DraftHead) : DraftHead := { h with name := some name }

def withDefaultName (name : String) (h : DraftHead) : DraftHead :=
  { h with name := some (h.name.getD name) }

def requireName (kind : DraftKind) (h : DraftHead) : Except DeclError String :=
  match h.name with
  | some name => if name = "" then .error (.missingName kind) else .ok name
  | none => .error (.missingName kind)

end DraftHead

/-- The type of a draft is given at most once. -/
def giveType (kind : DraftKind) (head : DraftHead) (type : Option TypeName)
    (given : Option TypeName) : Except DeclError (Option TypeName) :=
  match type with
  | some t => .error (.typeGiven kind head.name t)
  | none => .ok given

def requireType (kind : DraftKind) (head : DraftHead) (type : Option TypeName) :
    Except DeclError TypeName :=
  match type with
  | some t => .ok t
  | none => .error (.missingType kind head.name)

structure PropertyDraft extends DraftHead where
  type : Option TypeName := none
  isMutable : Bool := true
  initializer : Option CodeBlock := none
  deriving Inhabited

structure ParameterDraft extends DraftHead where
  type : Option TypeName := none
  default : Option String := none
  deriving Inhabited

structure FunctionDraft extends DraftHead where
  parameters : List ParameterDecl := []
  returns : Option TypeName := none
  overridden : Bool := false
  doc : Option String := none
  annotations : List ClassName := []
  statements : List CodeBlock := []
  deriving Inhabited

structure TypeDraft extends DraftHead where
  superType : Option TypeName := none
  typeVariables : List TypeVariable := []
  annotations : List ClassName := []
  properties : List PropertyDecl := []
  functions : List FunctionDecl := []
  nested : List TypeDecl := []
  deriving Inhabited

structure AliasDraft extends DraftHead where
  type : Option TypeName := none
  typeVariables : List TypeVariable := []
  deriving Inhabited

structure FileDraft where
  className : Option ClassName := none
  imports : List Import := []
  aliases : List AliasDecl := []
  types : List TypeDecl := []
  functions : List FunctionDecl := []
  deriving Inhabited

def PropertyDraft.build (d : PropertyDraft) : Except DeclError PropertyDecl := do
  let name ← d.requireName .property
  let type ← requireType .property d.toDraftHead d.type
  return { name, type, isMutable := d.isMutable, modifiers := d.modifiers,
           initializer := d.initializer }

def ParameterDraft.build (d : ParameterDraft) : Except DeclError ParameterDecl := do
  let name ← d.requireName .parameter
  let type ← requireType .parameter d.toDraftHead d.type
  return { name, type, default := d.default, modifiers := d.modifiers }

/-- An overriding function has the modifier that says so. -/
def overrideModifiers (overridden : Bool) (modifiers : List Modifier) : List Modifier :=
  if overridden && !modifiers.contains .override then modifiers ++ [.override] else modifiers

def FunctionDraft.build (d : FunctionDraft) : Except DeclError FunctionDecl := do
  let name ← d.requireName .function
  return { name, parameters := d.parameters, returns := d.returns, overridden := d.overridden,
           doc := d.doc, annotations := d.annotations, statements := d.statements,
           modifiers := overrideModifiers d.overridden d.modifiers }

def TypeDraft.build (d : TypeDraft) : Except DeclError TypeDecl := do
  let name ← d.requireName .type
  return { name, superType := d.superType, typeVariables := d.typeVariables,
           annotations := d.annotations, properties := d.properties, functions := d.functions,
           nested := d.nested, modifiers := d.modifiers }

def AliasDraft.build (d : AliasDraft) : Except DeclError AliasDecl := do
  let name ← d.requireName .typeAlias
  let target ← requireType .typeAlias d.toDraftHead d.type
  return { name, target, typeVariables := d.typeVariables }

namespace FileDraft

def references (d : FileDraft) : List ClassName :=
  d.aliases.flatMap AliasDecl.references ++ d.types.flatMap TypeDecl.references
    ++ d.functions.flatMap FunctionDecl.references

def computeImports (d : FileDraft) (package : String) : Except DeclError (List Import) :=
  (Import.compute package d.imports d.references).mapError (.importConflict package)

def build (d : FileDraft) : Except DeclError SourceFile :=
  match d.className with
  | none => .error .missingFileName
  | some className => do
    let imports ← d.computeImports className.package
    return { className, imports, aliases := d.aliases, types := d.types, functions := d.functions }

end FileDraft

end FluentKotlin
