import FluentKotlin.Document.Heading
import FluentKotlin.Document.Transform

/-! # Properties of a document

The entry of a property. It has a name, the text of its type, and a default where one is given. A
default is a value alone or a mapping with the value and the text of its type, which else is the
type of the property. The transform of a property is the one of its type.
-/

namespace FluentKotlin

/-- The literal that a value stands for. -/
def literalOf : Value → Describing String
  | .scalar (.bool b) => .ok (if b then "true" else "false")
  | v => shown v

/-- Where a type text stands: the domains it can name and the package of its own domain. -/
structure TypeScope where
  registry : Registry
  package : String

def TypeScope.read (scope : TypeScope) (text : String) : Describing (TypeRef × Bool) :=
  readTypeText scope.registry scope.package text

namespace DefaultHint

/-- The type that a default names, else that of its property. -/
def typeOf (scope : TypeScope) (declared : TypeRef) (v : Value) : Describing TypeRef :=
  if v.isVoid then .ok declared
  else do
    let (r, _) ← scope.read (← shown v)
    return r

def ofValue (scope : TypeScope) (place : String) (declared : TypeRef) (default : Value) :
    Describing (Option DefaultHint) := do
  match default.opened with
  | .scalar .null => return none
  | .mapping entries =>
    match field? "value" entries with
    | none => throw (.defaultValue place)
    | some v => do
      let valueType ← typeOf scope declared (fieldOrNull "type" entries)
      return some { literal := ← literalOf v, valueType }
  | _ => return some { literal := ← literalOf default, valueType := declared }

end DefaultHint

/-- The transform of the values of a type. -/
def Transforms.forType (ts : Transforms) (r : TypeRef) : Option TransformHint :=
  ts.lookup (r.qualifiedName.getD "")

namespace DomainProperty

def ofEntry (scope : TypeScope) (transforms : Transforms) (place : String) (ordinal : Nat)
    (isLast : Bool) (v : Value) : Describing DomainProperty := do
  let entries ← entryOf place v
  let name ← requiredText place "name" entries
  let typeText ← requiredText place "type" entries
  let (declared, nullable) ← scope.read typeText
  let default ← DefaultHint.ofValue scope place declared (fieldOrNull "default" entries)
  return {
    name
    declared
    nullable
    ordinal
    isLast
    transform := transforms.forType declared
    default }

def ofEntries (scope : TypeScope) (transforms : Transforms) (place : String) (ordinal : Nat) :
    List Value → Describing (List DomainProperty)
  | [] => .ok []
  | v :: vs => do
    let p ← ofEntry scope transforms (itemPlace place ordinal) ordinal vs.isEmpty v
    let ps ← ofEntries scope transforms place (ordinal + 1) vs
    return p :: ps

end DomainProperty

namespace Heading

def scope (registry : Registry) (h : Heading) : TypeScope :=
  ⟨registry, Text.qualifier h.domain.qualifiedName⟩

/-- The domain with its properties. -/
def complete (registry : Registry) (transforms : Transforms) (h : Heading) :
    Describing DomainType := do
  let properties ← DomainProperty.ofEntries (h.scope registry) transforms
    (h.domain.qualifiedName ++ ".properties") 0 h.properties
  return { h.domain with properties }

def completeAll (registry : Registry) (transforms : Transforms) :
    List Heading → Describing (List DomainType)
  | [] => .ok []
  | h :: hs => do
    let d ← h.complete registry transforms
    let ds ← completeAll registry transforms hs
    return d :: ds

end Heading

end FluentKotlin
