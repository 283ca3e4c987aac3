import FluentKotlin.Document.Property

/-! # Domain documents

A domain document has the options of a pass, the transforms, and the domains in their order. It is
read from a mapping with a section for each of them, and a section may be missing.
-/

namespace FluentKotlin

structure Document where
  options : Entries := []
  transforms : Transforms := []
  domains : List DomainType := []
  deriving Inhabited

namespace Document

def ofEntries (entries : Entries) : Describing Document := do
  let options ← mappingField "options" entries
  let items ← itemsOf "domains" (fieldOrNull "domains" entries)
  let headings ← Heading.ofEntries 0 items
  let registry ← Registry.ofDomains (headings.map (·.domain))
  let hints ← mappingField "transforms" entries
  let transforms ← Transforms.ofEntries registry [] hints
  let domains ← Heading.completeAll registry transforms headings
  return { options, transforms, domains }

/-- The sections of a document that a value is, or the given fault for one that is no mapping. A
value that stands for nothing has no section. -/
def sectionsOr (fault : DocumentError) (v : Value) : Describing Entries :=
  match v.opened with
  | .mapping entries => .ok entries
  | _ => if v.isVoid then .ok [] else .error fault

def ofValue (v : Value) : Describing Document := do
  let entries ← sectionsOr .shape v
  ofEntries entries

def isNamed (name : String) (d : DomainType) : Bool :=
  d.qualifiedName == name ||
    match d.simpleName with
    | .ok simple => simple == name
    | .error _ => false

/-- The first domain that has a name as its qualified or simple name. -/
def domain? (doc : Document) (name : String) : Option DomainType := doc.domains.find? (isNamed name)

end Document

end FluentKotlin
