import FluentKotlin.Domain.Naming
import FluentKotlin.Generation.Fault

/-! # Group containers

The type inside a builder that collects many values of its domain. A list group holds a list, and a
map group a map with a key of any type. Both keep what is collected to themselves, hand out a copy,
and have a function that builds one value at a time.
-/

namespace FluentKotlin

inductive GroupKind where
  | list
  | map
  deriving DecidableEq, Repr, Inhabited

/-- The key of a map group. -/
def groupKey : TypeVariable := { name := "K" }

namespace GroupKind

def checkName : GroupKind → String
  | list => "isListGroup"
  | map => "isMapGroup"

def containerName : GroupKind → String
  | list => Naming.groupName
  | map => Naming.mapGroupName

def isOffered (k : GroupKind) (d : DomainType) : Bool :=
  match k with
  | list => d.listGroup
  | map => d.mapGroup.active

def typeVariables : GroupKind → List TypeVariable
  | list => []
  | map => [groupKey]

/-- The type of what a container holds. -/
def backingType (k : GroupKind) (domainClass : ClassName) : TypeName :=
  match k with
  | list => .mutableListOf (.named domainClass)
  | map => .mutableMapOf groupKey.asType (.named domainClass)

/-- The type of what a container hands out. -/
def builtType (k : GroupKind) (domainClass : ClassName) : TypeName :=
  match k with
  | list => .listOf (.named domainClass)
  | map => .mapOf groupKey.asType (.named domainClass)

def emptyCode : GroupKind → String
  | list => "mutableListOf()"
  | map => "mutableMapOf()"

def itemsCode : GroupKind → String
  | list => "return items.toList()"
  | map => "return items.toMap()"

def addCode : GroupKind → String
  | list => "items.add(%T().apply(block).build())"
  | map => "items[key] = %T().apply(block).build()"

def keyParameters (k : GroupKind) : Except DeclError (List ParameterDecl) :=
  match k with
  | list => .ok []
  | map => do
    let key ← ParameterDraft.build { name := some "key", type := some groupKey.asType.nonNull }
    return [key]

def itemsProperty (k : GroupKind) (domainClass : ClassName) : Except DeclError PropertyDecl :=
  PropertyDraft.build {
    name := some "items"
    modifiers := [.isPrivate]
    isMutable := false
    type := some (k.backingType domainClass)
    initializer := some ⟨k.emptyCode, []⟩ }

def itemsFunction (k : GroupKind) (domainClass : ClassName) : Except DeclError FunctionDecl :=
  FunctionDraft.build {
    name := some "items"
    returns := some (k.builtType domainClass)
    statements := [⟨k.itemsCode, []⟩] }

def addFunction (k : GroupKind) (n : Naming) : Except DeclError FunctionDecl := do
  let keys ← k.keyParameters
  let block ← ParameterDraft.build {
    name := some "block"
    type := some (.scopeOf (.named n.builderClass)) }
  FunctionDraft.build {
    name := some n.functionName
    parameters := keys ++ [block]
    statements := [⟨k.addCode, [.type (.named n.builderClass)]⟩] }

def container (k : GroupKind) (n : Naming) (marker : Option ClassName) :
    Except DeclError TypeDecl := do
  let items ← k.itemsProperty n.domainClass
  let snapshot ← k.itemsFunction n.domainClass
  let add ← k.addFunction n
  TypeDraft.build {
    name := some k.containerName
    typeVariables := k.typeVariables
    annotations := marker.toList
    properties := [items]
    functions := [snapshot, add] }

/-- The container of a builder, for a domain that offers one. -/
def container? (k : GroupKind) (n : Naming) (marker : Option ClassName) :
    Generating (Option TypeDecl) := do
  let offered := k.isOffered n.domain
  Reporting.debug 1 false ("[DECISION] " ++ k.checkName ++ ": " ++ writtenBool offered)
  if offered then
    Reporting.debug 1 true (k.containerName ++ " added")
    let t ← Generating.ofDecl (k.container n marker)
    return some t
  else return none

end GroupKind

/-- The annotation that marks the builders, where the settings name one. -/
def markerClass : Option String → Except NameError (Option ClassName)
  | none => .ok none
  | some text => if text = "" then .ok none else (ClassName.ofQualified text).map some

end FluentKotlin
