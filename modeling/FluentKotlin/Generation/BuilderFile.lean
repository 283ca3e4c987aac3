import FluentKotlin.Generation.Group
import FluentKotlin.Schema.Accessor
import FluentKotlin.Schema.Classify

/-! # Builder files

The file of a domain has the builder and an alias for each scope that a caller can be in. The
builder stores every property, has an accessor for each, and makes the domain value. A check that
some property needs is imported from the package of the contract.
-/

namespace FluentKotlin

namespace BuilderFile

open Reporting (debug)

def storedProperties : List Schema → Except DeclError (List PropertyDecl)
  | [] => .ok []
  | s :: ss => do
    let p ← s.storedProperty
    let ps ← storedProperties ss
    return p :: ps

def accessors : List Schema → Except DeclError (List FunctionDecl)
  | [] => .ok []
  | s :: ss => do
    let f ← s.accessor
    let fs ← accessors ss
    return f :: fs

/-- The argument of the constructor for a property. -/
def constructorArgument (s : Schema) : CodeBlock :=
  ⟨"%N = %L", [.text s.name, .code s.valueCode]⟩

def constructorCall (domainClass : ClassName) (schemas : List Schema) : CodeBlock :=
  if schemas.isEmpty then ⟨"return %T()", [.type (.named domainClass)]⟩
  else
    ⟨"return %T(%L)",
      [.type (.named domainClass), .arguments (schemas.map constructorArgument)]⟩

def buildFunction (domainClass : ClassName) (schemas : List Schema) :
    Except DeclError FunctionDecl :=
  FunctionDraft.build {
    name := some "build"
    returns := some (.named domainClass)
    overridden := true
    statements := [constructorCall domainClass schemas] }

/-- The containers that are there, in the order of their kinds. -/
def containers (n : Naming) (marker : Option ClassName) : Generating (List TypeDecl) := do
  let list ← GroupKind.list.container? n marker
  let map ← GroupKind.map.container? n marker
  return list.toList ++ map.toList

def builderType (n : Naming) (schemas : List Schema) : Generating TypeDecl := do
  let marker ← Generating.ofName (markerClass n.settings.marker)
  if marker.isSome then debug 1 true "DSL marker added"
  debug 1 true "DSL builder interface added"
  let properties ← Generating.ofDecl (storedProperties schemas)
  debug 1 true "properties added"
  let functions ← Generating.ofDecl (accessors schemas)
  let build ← Generating.ofDecl (buildFunction n.domainClass schemas)
  let nested ← containers n marker
  Generating.ofDecl (TypeDraft.build {
    name := some n.builderName
    modifiers := [.isPublic]
    superType := some n.contract
    annotations := marker.toList
    properties
    functions := functions ++ [build]
    nested })

def aliasName (scope : ClassName) : String := String.join scope.simpleNames ++ "Scope"

def isMapScope (scope : ClassName) : Bool := scope.simpleName == Naming.mapGroupName

/-- The type of the blocks that run in a scope. -/
def scopeType (scope : ClassName) : TypeName :=
  if isMapScope scope then .scopeOf (.apply scope [groupKey.asType]) else .scopeOf (.named scope)

def scopeAlias (scope : ClassName) : Except DeclError AliasDecl :=
  AliasDraft.build {
    name := some (aliasName scope)
    type := some (scopeType scope)
    typeVariables := if isMapScope scope then [groupKey] else [] }

def scopeAliases : List ClassName → Generating (List AliasDecl)
  | [] => pure []
  | scope :: scopes => do
    debug 1 true ("typeAlias added: " ++ aliasName scope)
    let a ← Generating.ofDecl (scopeAlias scope)
    let as ← scopeAliases scopes
    return a :: as

def isNeeded (schemas : List Schema) (c : Check) : Bool := schemas.any (·.check? == some c)

def checkImports (package : String) (schemas : List Schema) : List Check → Generating (List Import)
  | [] => pure []
  | c :: cs => do
    let needed := isNeeded schemas c
    debug 1 true (c.helper ++ ": " ++ writtenBool needed)
    let is ← checkImports package schemas cs
    return (if needed then [⟨package, c.helper⟩] else []) ++ is

/-- The import for a default whose type is a class of another package. -/
def defaultImport (package : String) : Option DefaultHint → Except NameError (List Import)
  | none => .ok []
  | some d =>
    if d.valueType.kind = .nominal then do
      let c ← d.valueType.className
      let top := c.topLevel
      return if top.package ≠ "" ∧ top.package ≠ package then [.ofClass top] else []
    else .ok []

def defaultImports (package : String) : List Schema → Except NameError (List Import)
  | [] => .ok []
  | s :: ss => do
    let i ← defaultImport package s.default
    let is ← defaultImports package ss
    return i ++ is

def generate (n : Naming) (schemas : List Schema) : Generating SourceFile := do
  debug 0 false "-- generating builder --"
  debug 0 false ("+++ DOMAIN: " ++ n.domainClass.written ++ " +++")
  debug 1 true ("package: " ++ n.package)
  debug 1 true ("builder: " ++ n.builderName)
  let builder ← builderType n schemas
  let aliases ← scopeAliases n.scopes
  let checks ← checkImports n.settings.contractPackage schemas Check.all
  let defaults ← Generating.ofName (defaultImports n.package schemas)
  let file ← Generating.ofDecl (FileDraft.build {
    className := some n.fileClass
    imports := checks ++ defaults
    aliases
    types := [builder] })
  debug 1 false ("file generated: " ++ n.fileClass.written)
  return file

end BuilderFile

end FluentKotlin
