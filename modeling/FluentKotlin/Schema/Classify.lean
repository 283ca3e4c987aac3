import FluentKotlin.Report.Basic
import FluentKotlin.Schema.Basic
import FluentKotlin.Text.Code

/-! # Classification of properties

Every property of a domain gets one schema. A transform hint comes first, then a described domain,
then the scalars, then maps and lists, and what is left is taken as it is. A fallback is reported
as a warning. The known domains only serve to document the builders that a property leads to.
-/

namespace FluentKotlin

/-- Domains by qualified name. -/
abbrev KnownDomains := List (String × DomainType)

def KnownDomains.ofList (ds : List DomainType) : KnownDomains :=
  (ds.map fun d => (d.qualifiedName, d)).reverse

namespace Schema

open Reporting (debug warn)

abbrev Classifying := Reporting NameError

def sortedNames (names : List String) : List String :=
  names.mergeSort fun a b => !Text.before b a

/-- The list of the functions that a builder offers, none for a builder without any. -/
def builderDoc (known : KnownDomains) (builder : ClassName) (qualifiedName : Option String) :
    Option String :=
  match known.lookup (qualifiedName.getD "") with
  | none => none
  | some d =>
    if d.properties.isEmpty then none
    else
      let names := sortedNames (d.properties.map (·.name))
      some ("Available builder functions:\n" ++ String.intercalate "\n"
        (names.map fun name => "* [" ++ builder.simpleName ++ "." ++ name ++ "]"))

def make (p : DomainProperty) (form : Form) : Schema := ⟨p.name, p.nullable, p.default, form⟩

/-- The property as it is, without an accessor of its own kind. -/
def fallback (p : DomainProperty) : Classifying Schema := do
  let t ← p.typeName
  return make p (.plain t)

def fallbackWarning (label : Option String) (p : DomainProperty) (message : String) : Finding :=
  { severity := .warning, message, domain := label, property := some p.name,
    fallback := some "Default" }

def optionWritten : Option TypeRef → Except NameError String
  | none => .ok nothing
  | some r => r.typeName.map (·.written)

def ofHint (label : Option String) (p : DomainProperty) (hint : TransformHint) :
    Classifying Schema := do
  debug 4 true ("template: " ++ hint.template.getD nothing)
  let input ← optionWritten hint.input
  debug 4 false ("input type: " ++ input)
  match hint.input with
  | none =>
    warn (fallbackWarning label p
      "single-entry transform input type is missing or could not be resolved")
    fallback p
  | some r =>
    let t ← p.typeName
    let input ← r.typeName
    return make p (.transform t input hint.template)

def ofDomain (known : KnownDomains) (p : DomainProperty) : Classifying Schema := do
  let c ← p.declared.className
  let builder := builderClassFor c
  debug 4 false ("nestedBuilder: " ++ builder.written)
  let t ← p.typeName
  return make p (.builder t builder (builderDoc known builder p.declared.qualifiedName))

/-- Whether the kind or the qualified name of a type makes it a map or a list. It is reported when
the two disagree. -/
def isContainer (label : Option String) (p : DomainProperty) (kind : TypeKind)
    (qualifiedName : String) : Classifying Bool := do
  let byKind := p.declared.kind == kind
  let byName := p.declared.qualifiedName == some qualifiedName
  if byKind != byName then
    let declared ← p.declared.typeName
    warn {
      severity := .warning
      message := "conflicting " ++ kind.name ++ " signals for '" ++ declared.written
        ++ "' (structural: " ++ writtenBool byKind ++ ", qualified name: " ++ writtenBool byName
        ++ ")"
      domain := label
      property := some p.name }
  return byKind || byName

def ofMap (known : KnownDomains) (label : Option String) (p : DomainProperty) :
    Classifying Schema := do
  match p.declared.arguments with
  | [key, value] =>
    let keyType ← key.typeName
    debug 5 true ("mapElementKey: " ++ keyType.written)
    let valueType ← value.typeName
    debug 5 false ("mapElementValue: " ++ valueType.written)
    if value.isMapGroupValue then
      debug 4 false "[DECISION] MapGroup"
      let c ← value.className
      let builder := builderClassFor c
      return make p (.mapGroup keyType c builder (builderDoc known builder value.qualifiedName))
    else
      debug 4 false "[DECISION] Map"
      return make p (.map keyType valueType)
  | _ =>
    let declared ← p.declared.typeName
    warn (fallbackWarning label p
      ("map type '" ++ declared.written ++ "' is not parameterized by key and value"))
    fallback p

def ofList (known : KnownDomains) (label : Option String) (p : DomainProperty) :
    Classifying Schema := do
  match p.declared.arguments with
  | [element] =>
    let elementType ← element.typeName
    debug 5 false ("listElementType: " ++ elementType.written)
    if element.isGroupElement then
      debug 4 false "[DECISION] Group"
      let c ← element.className
      let builder := builderClassFor c
      return make p (.group c builder (builderDoc known builder element.qualifiedName))
    else
      debug 4 false "[DECISION] Collection"
      return make p (.collection elementType)
  | _ =>
    let declared ← p.declared.typeName
    warn (fallbackWarning label p
      ("list type '" ++ declared.written ++ "' is not parameterized by an element type"))
    fallback p

def ofContainer (known : KnownDomains) (label : Option String) (p : DomainProperty) :
    Classifying Schema := do
  if ← isContainer label p .map mapName then
    debug 4 false "[CHOICE] map branch"
    ofMap known label p
  else if ← isContainer label p .collection listName then
    debug 4 false "[CHOICE] list branch"
    ofList known label p
  else
    let declared ← p.declared.typeName
    warn (fallbackWarning label p
      ("type '" ++ declared.written ++ "' could not be mapped to a known property schema"))
    fallback p

def isGenerated (r : TypeRef) : Bool := r.kind == .nominal && r.generable

def choose (known : KnownDomains) (label : Option String) (p : DomainProperty) :
    Classifying Schema :=
  match p.transform with
  | some hint => ofHint label p hint
  | none =>
    if isGenerated p.declared then ofDomain known p
    else match p.declared.kind with
      | .boolean => pure (make p .boolean)
      | .char | .string | .numeric => fallback p
      | _ => ofContainer known label p

/-- The schema of one property, where the label names its domain in reports. -/
def classify (known : KnownDomains) (label : Option String) (p : DomainProperty) :
    Classifying Schema := do
  debug 2 (!p.isLast) ("mapping '" ++ p.name ++ "'")
  let declared ← p.declared.typeName
  debug 3 true ("type: " ++ declared.written)
  debug 3 true ("nullable: " ++ writtenBool p.nullable)
  let schema ← choose known label p
  debug 3 false ("-> " ++ schema.describe)
  return schema

def classifyAll (known : KnownDomains) (label : Option String) :
    List DomainProperty → Classifying (List Schema)
  | [] => pure []
  | p :: ps => do
    let schema ← classify known label p
    let schemas ← classifyAll known label ps
    return schema :: schemas

/-- The schemas of the properties of a domain in the order of their declaration. -/
def ofDomainType (known : KnownDomains) (d : DomainType) : Classifying (List Schema) := do
  debug 1 true ("properties of " ++ d.qualifiedName)
  classifyAll known (some d.qualifiedName) d.properties

end Schema

end FluentKotlin
