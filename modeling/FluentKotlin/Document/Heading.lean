import FluentKotlin.Document.Field
import FluentKotlin.Document.Registry

/-! # Headings of domains

The entry of a domain without its properties. The types of properties can name any domain of the
document, so all headings are read and registered before the first property. A domain is
registered under its qualified name, and under its simple name where no domain before it is.
-/

namespace FluentKotlin

structure Heading where
  domain : DomainType
  properties : List Value

namespace Heading

def mapGroupOf (name : String) (v : Value) : Describing MapGroup :=
  match MapGroup.ofValue v with
  | .ok mode => .ok mode
  | .error _ => .error (.mapGroup name)

def ofEntry (index : Nat) (v : Value) : Describing Heading := do
  let place := itemPlace "domains" index
  let entries ← entryOf place v
  let name ← requiredText place "name" entries
  let mapGroup ← mapGroupOf name (fieldOrNull "mapGroup" entries)
  let isRoot ← flagField name "root" entries
  let listGroup ← flagField name "listGroup" entries
  let properties ← itemsOf (name ++ ".properties") (fieldOrNull "properties" entries)
  return ⟨{ qualifiedName := name, isRoot, listGroup, mapGroup }, properties⟩

def ofEntries (index : Nat) : List Value → Describing (List Heading)
  | [] => .ok []
  | v :: vs => do
    let h ← ofEntry index v
    let hs ← ofEntries (index + 1) vs
    return h :: hs

end Heading

namespace Registry

def addNew (name : String) (d : DomainType) (r : Registry) : Registry :=
  match r.lookup name with
  | some _ => r
  | none => r ++ [(name, d)]

/-- The first domain that is registered under a name keeps it. -/
theorem lookup_addNew (name other : String) (d : DomainType) (r : Registry) :
    (addNew name d r).lookup other =
      (r.lookup other).or (if other = name then some d else none) := by
  unfold addNew
  cases he : r.lookup name with
  | some e =>
    by_cases h : other = name
    · simp [h, he]
    · simp [h]
  | none =>
    by_cases h : other = name
    · simp [List.lookup_append, h]
    · simp [List.lookup_append, List.lookup_cons, beq_false_of_ne h, h]

def add (r : Registry) (d : DomainType) : Describing Registry :=
  match r.lookup d.qualifiedName with
  | some _ => .error (.duplicate d.qualifiedName)
  | none => do
    let simpleName ← d.simpleName.mapError .name
    return addNew simpleName d (addNew d.qualifiedName d r)

def addAll (r : Registry) : List DomainType → Describing Registry
  | [] => .ok r
  | d :: ds => do
    let next ← r.add d
    addAll next ds

def ofDomains (ds : List DomainType) : Describing Registry := addAll [] ds

end Registry

end FluentKotlin
