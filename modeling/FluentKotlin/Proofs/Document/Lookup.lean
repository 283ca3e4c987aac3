import FluentKotlin.Document.Text
import FluentKotlin.Proofs.Document.Registered
import FluentKotlin.Proofs.Document.Resolution
import FluentKotlin.Proofs.Document.Sections
import FluentKotlin.Proofs.Pointwise

/-! # Names that a document answers to

While a document is read, a registry answers for the names in its types. When it is finished, its
domains are searched for a name. Both find the same: the first domain with that qualified or simple
name. So a name in a type text that is not one of the standard library is read as a described domain
exactly where the document has a domain of that name, and as that one.
-/

namespace FluentKotlin

/-! ### The registry and the list of domains -/

namespace Registry

variable {registry next : Registry} {ds es : List DomainType} {d : DomainType}

def Searches (registry : Registry) (ds : List DomainType) : Prop :=
  ∀ name, registry.lookup name = ds.find? (Document.isNamed name)

theorem searches_nil : Searches [] [] := fun _ => rfl

theorem find?_singleton_isNamed {simple : String} (hs : d.simpleName = .ok simple)
    (name : String) :
    [d].find? (Document.isNamed name) =
      (if name = d.qualifiedName then some d else none).or
        (if name = simple then some d else none) := by
  have hnamed : Document.isNamed name d = true ↔ name = d.qualifiedName ∨ name = simple := by
    rw [Document.isNamed_iff, hs, Except.ok.injEq, eq_comm, @eq_comm _ simple]
  rw [List.find?_singleton]
  by_cases hq : name = d.qualifiedName
  · rw [if_pos (hnamed.mpr (Or.inl hq)), if_pos hq, Option.some_or]
  · by_cases hn : name = simple
    · rw [if_pos (hnamed.mpr (Or.inr hn)), if_neg hq, if_pos hn, Option.none_or]
    · rw [if_neg (fun h => (hnamed.mp h).elim hq hn), if_neg hq, if_neg hn, Option.none_or]

/-- A further domain comes last in the search, and it takes no name that was taken. -/
theorem Searches.add (hr : registry.Searches ds) (h : registry.add d = .ok next) :
    next.Searches (ds ++ [d]) := by
  obtain ⟨_, simple, hs, rfl⟩ := add_eq_ok h
  intro name
  rw [lookup_addNew, lookup_addNew, Option.or_assoc, hr name, ← find?_singleton_isNamed hs,
    List.find?_append]

theorem Searches.addAll (hr : registry.Searches ds) (h : registry.addAll es = .ok next) :
    next.Searches (ds ++ es) := by
  induction es generalizing ds registry with
  | nil =>
    cases h
    rw [List.append_nil]
    exact hr
  | cons e es ih =>
    obtain ⟨mid, hm, h⟩ := bind_eq_ok.mp h
    rw [List.append_cons]
    exact ih (hr.add hm) h

theorem searches_of_ofDomains (h : ofDomains ds = .ok registry) : registry.Searches ds :=
  searches_nil.addAll h

end Registry

namespace Document

theorem isNamed_eq {d e : DomainType} (h : d.qualifiedName = e.qualifiedName) (name : String) :
    isNamed name d = isNamed name e := by
  have hs : d.simpleName = e.simpleName := by
    unfold DomainType.simpleName DomainType.className
    rw [h]
  unfold isNamed
  rw [h, hs]

end Document

namespace Heading

variable {registry : Registry} {transforms : Transforms} {hs : List Heading}
  {ds : List DomainType}

theorem asRef_of_complete {heading : Heading} {d : DomainType}
    (h : heading.complete registry transforms = .ok d) :
    d.qualifiedName = heading.domain.qualifiedName ∧ d.asRef = heading.domain.asRef := by
  obtain ⟨_, _, h⟩ := bind_eq_ok.mp h
  cases h
  exact ⟨rfl, rfl⟩

/-- The domains with their properties are found under the names of their headings. -/
theorem find?_of_completes
    (h : List.Forall₂ (fun heading d => heading.complete registry transforms = .ok d) hs ds)
    (name : String) :
    ((hs.map (·.domain)).find? (Document.isNamed name)).map DomainType.asRef =
      (ds.find? (Document.isNamed name)).map DomainType.asRef := by
  induction h with
  | nil => rfl
  | @cons heading d hs ds hc _ ih =>
    obtain ⟨hname, href⟩ := asRef_of_complete hc
    rw [List.map_cons, List.find?_cons, List.find?_cons, Document.isNamed_eq hname]
    cases Document.isNamed name heading.domain with
    | true => exact congrArg some href.symm
    | false => exact ih

end Heading

/-! ### Names of the standard library -/

def scalarNames : List String := ["Boolean", "String", "Char"] ++ numericNames

/-- The name with so many arguments is taken for a type of the standard library, whatever domains
there are. -/
def IsBuiltIn (name : String) (arity : Nat) : Prop :=
  (isStandard name = true ∧ arity = 0 ∧ Text.lastSegment name ∈ scalarNames) ∨
    isListName name = true ∨ isMapName name = true

instance (name : String) (arity : Nat) : Decidable (IsBuiltIn name arity) :=
  inferInstanceAs (Decidable (_ ∨ _))

theorem scalarRef?_eq_none_iff {name : String} : scalarRef? name = none ↔ name ∉ scalarNames := by
  unfold scalarRef? scalarNames
  split
  · simp [*]
  · split
    · simp [*]
    · split
      · simp [*]
      · split <;> simp [*]

theorem standardRef?_eq_none_iff_not_isBuiltIn {name : String} {arguments : List TypeRef} :
    standardRef? name arguments = none ↔ ¬ IsBuiltIn name arguments.length := by
  rw [standardRef?_eq_none_iff, scalarRef?_eq_none_iff, IsBuiltIn, not_or, not_or,
    Bool.not_eq_true, Bool.not_eq_true, List.length_eq_zero_iff]
  refine and_congr_left fun _ => ?_
  rw [not_and, not_and]

/-! ### Places in a type text -/

theorem TypeRef.withNullable_nullable (r : TypeRef) : r.withNullable r.nullable = r := by
  cases r
  rfl

namespace TypeTree

def name : TypeTree → TypeToken
  | node name _ _ => name

def arguments : TypeTree → List TypeTree
  | node _ arguments _ => arguments

mutual

/-- Every part of the tree with what the reference has in its place, in the order of the text. -/
def places : TypeTree → TypeRef → List (TypeTree × TypeRef)
  | .node name arguments nullable, r =>
    (.node name arguments nullable, r) :: placesOfAll arguments r.arguments

def placesOfAll : List TypeTree → List TypeRef → List (TypeTree × TypeRef)
  | t :: ts, r :: rs => places t r ++ placesOfAll ts rs
  | _, _ => []

end

variable {ts : List TypeToken} {tree : TypeTree} {registry : Registry} {package : String}
  {x : TypeTree × TypeRef}

theorem filter_listed (parts : List (List TypeToken)) :
    (listed parts).filter TypeToken.isName = parts.flatMap (·.filter TypeToken.isName) := by
  induction parts with
  | nil => rfl
  | cons part parts ih =>
    by_cases h : parts = []
    · subst h
      simp
    · have hcomma : (TypeToken.mark ',').isName = false := by decide +kernel
      rw [listed_cons h, List.filter_append, List.filter_cons_of_neg (by simp [hcomma]), ih,
        List.flatMap_cons]

theorem map_name_placesOfAll {parts : List (List TypeToken × TypeTree)} {rs : List TypeRef}
    (hf : AllFollow (parts.map (·.2)) rs)
    (h : ∀ p ∈ parts, ∀ r, p.2.Follows r →
      (p.2.places r).map (·.1.name) = p.1.filter TypeToken.isName) :
    (placesOfAll (parts.map (·.2)) rs).map (·.1.name) =
      (parts.map (·.1)).flatMap (·.filter TypeToken.isName) := by
  induction parts generalizing rs with
  | nil => cases rs <;> simp [placesOfAll]
  | cons p parts ih =>
    cases rs with
    | nil => simp [AllFollow] at hf
    | cons r rs =>
      obtain ⟨hfirst, hrest⟩ := List.forall_mem_cons.mp h
      rw [List.map_cons, AllFollow] at hf
      obtain ⟨-, hp, hf⟩ := hf
      rw [List.map_cons, List.map_cons, placesOfAll, List.map_append, hfirst r hp, ih hf hrest,
        List.flatMap_cons]

theorem Derives.map_name_places (h : Derives ts tree) {r : TypeRef} (hf : tree.Follows r) :
    (tree.places r).map (·.1.name) = ts.filter TypeToken.isName := by
  induction h generalizing r with
  | @name name hn =>
    rw [places, List.filter_cons_of_pos hn]
    cases r.arguments <;> simp [placesOfAll, TypeTree.name]
  | @applied name parts hn _ _ ih =>
    have hopen : ¬ (TypeToken.mark '<').isName = true := by decide +kernel
    have hclose : ¬ (TypeToken.mark '>').isName = true := by decide +kernel
    rw [Follows] at hf
    rw [places, List.map_cons, map_name_placesOfAll hf fun p hp r => ih p hp, List.filter_append,
      List.filter_cons_of_pos hn, List.filter_cons_of_neg hopen, List.filter_cons_of_neg hclose,
      filter_listed, List.filter_nil, List.append_nil, TypeTree.name]
  | @marked name arguments ts _ ih =>
    have hmark : ¬ (TypeToken.mark '?').isName = true := by decide +kernel
    rw [Follows] at hf
    rw [List.filter_append, List.filter_cons_of_neg hmark, List.filter_nil, List.append_nil,
      ← ih (r := r) (by rwa [Follows]), places, places]
    rfl

mutual

theorem exists_withNullable_of_mem_places : ∀ (t : TypeTree) (b : Bool),
    x ∈ t.places ((t.resolve registry package).withNullable b) →
      ∃ b, x.2 = (x.1.resolve registry package).withNullable b
  | .node name arguments nullable, b => by
    intro hx
    rw [places] at hx
    rcases List.mem_cons.mp hx with rfl | hx
    · exact ⟨b, rfl⟩
    · rw [TypeTree.resolve, TypeRef.withNullable] at hx
      dsimp only at hx
      rw [arguments_resolveName] at hx
      exact exists_withNullable_of_mem_placesOfAll arguments hx

theorem exists_withNullable_of_mem_placesOfAll : ∀ ts : List TypeTree,
    x ∈ placesOfAll ts (resolveArguments registry package ts) →
      ∃ b, x.2 = (x.1.resolve registry package).withNullable b
  | [] => by
    intro hx
    simp [placesOfAll] at hx
  | t :: ts => by
    intro hx
    rw [resolveArguments, placesOfAll] at hx
    rcases List.mem_append.mp hx with hx | hx
    · exact exists_withNullable_of_mem_places t t.nullable hx
    · exact exists_withNullable_of_mem_placesOfAll ts hx

end

theorem exists_withNullable_of_mem_places_resolve
    (hx : x ∈ tree.places (tree.resolve registry package)) :
    ∃ b, x.2 = (x.1.resolve registry package).withNullable b := by
  rw [← TypeRef.withNullable_nullable (tree.resolve registry package)] at hx
  exact exists_withNullable_of_mem_places tree _ hx

end TypeTree

/-! ### The domains of the names -/

/-- The reference is to the domain that the document finds under the name, and to no domain where
it finds none. -/
structure Document.Answers (doc : Document) (name : String) (r : TypeRef) : Prop where
  generable_iff : r.generable = true ↔ ∃ d, doc.domain? name = some d
  eq_of_domain : ∀ d, doc.domain? name = some d →
    r.qualifiedName = some d.qualifiedName ∧ r.listGroup = d.listGroup ∧ r.mapGroup = d.mapGroup

/-- The entry has a type text, in which each name has a place, and where the property has a
reference in the place of a name that is not built in, the document answers for it. -/
def DomainProperty.Agrees (doc : Document) (v : Value) (p : DomainProperty) : Prop :=
  ∃ entries typeText tree, v.opened = .mapping entries ∧
    textField "type" entries = .ok typeText ∧
    TypeTree.Derives (TypeToken.scan typeText.toList) tree ∧
    (tree.places p.declared).map (·.1.name) =
      (TypeToken.scan typeText.toList).filter TypeToken.isName ∧
    ∀ x ∈ tree.places p.declared, ¬ IsBuiltIn x.1.name.text x.1.arguments.length →
      doc.Answers x.1.name.text x.2

namespace Document

variable {doc : Document} {registry : Registry} {transforms : Transforms} {package : String}
  {headings : List Heading}

theorem lookup_eq_domain? {entries : Entries} {items : List Value} {hints : Entries}
    (h : Document.Reads entries doc items headings registry hints) (name : String) :
    (registry.lookup name).map DomainType.asRef = (doc.domain? name).map DomainType.asRef := by
  rw [Registry.searches_of_ofDomains h.readRegistry name, Heading.find?_of_completes h.readDomains]
  rfl

theorem answers_resolve (hl : ∀ name, (registry.lookup name).map DomainType.asRef =
      (doc.domain? name).map DomainType.asRef) {t : TypeTree}
    (hb : ¬ IsBuiltIn t.name.text t.arguments.length) (b : Bool) :
    doc.Answers t.name.text ((t.resolve registry package).withNullable b) := by
  obtain ⟨name, arguments, nullable⟩ := t
  have hs : standardRef? name.text (resolveArguments registry package arguments) = none := by
    rw [standardRef?_eq_none_iff_not_isBuiltIn, resolveArguments_eq_map, List.length_map]
    exact hb
  specialize hl name.text
  rw [TypeTree.resolve]
  cases hr : registry.lookup name.text with
  | none =>
    rw [hr, Option.map_none, eq_comm, Option.map_eq_none_iff] at hl
    rw [Registry.resolveName_of_none hs hr]
    refine ⟨iff_of_false nofun ?_, ?_⟩
    · rintro ⟨d, hd⟩
      cases hl.symm.trans hd
    · intro d hd
      cases hl.symm.trans hd
  | some e =>
    rw [hr, Option.map_some, eq_comm, Option.map_eq_some_iff] at hl
    obtain ⟨d, hd, he⟩ := hl
    rw [Registry.resolveName_of_domain hs hr]
    refine ⟨iff_of_true rfl ⟨d, hd⟩, ?_⟩
    intro f hf
    cases hd.symm.trans hf
    have hq := congrArg TypeRef.qualifiedName he
    have hg := congrArg TypeRef.listGroup he
    have hm := congrArg TypeRef.mapGroup he
    exact ⟨hq.symm, hg.symm, hm.symm⟩

end Document

theorem DomainProperty.agrees_of_ofEntry {doc : Document} {registry : Registry}
    {transforms : Transforms} {package place : String} {ordinal : Nat} {isLast : Bool} {v : Value}
    {p : DomainProperty}
    (hl : ∀ name, (registry.lookup name).map DomainType.asRef =
      (doc.domain? name).map DomainType.asRef)
    (h : ofEntry ⟨registry, package⟩ transforms place ordinal isLast v = .ok p) :
    p.Agrees doc v := by
  obtain ⟨⟨entries, typeText, hreads⟩, -⟩ := ofEntry_eq_ok.mp h
  obtain ⟨tree, hd, he⟩ := readTypeText_eq_ok.mp hreads.readType
  obtain ⟨hdeclared, -⟩ := Prod.mk.inj he
  refine ⟨entries, typeText, tree, hreads.opened,
    (requiredText_eq_ok.mp hreads.readTypeText).1, hd, ?_, ?_⟩
  · rw [← hdeclared]
    exact hd.map_name_places (TypeTree.follows_resolve tree)
  · intro x hx hb
    rw [← hdeclared] at hx
    obtain ⟨b, he⟩ := TypeTree.exists_withNullable_of_mem_places_resolve hx
    rw [he]
    exact Document.answers_resolve hl hb b

namespace Document

/-- In an accepted document, every name in the type text of a property that is not built in gives a
reference to the domain that the document finds under that name, with its qualified name and its
group modes, and to no domain exactly where the document finds none. -/
theorem domain?_agrees_with_types {text : String} {doc : Document} (h : ofText text = .ok doc) :
    ∃ entries items headings registry hints, sections text = .ok entries ∧
      Reads entries doc items headings registry hints ∧
      List.Forall₂ (fun heading d =>
        List.Forall₂ (DomainProperty.Agrees doc) heading.properties d.properties)
        headings doc.domains := by
  obtain ⟨entries, hs, he⟩ := bind_eq_ok.mp h
  obtain ⟨items, headings, registry, hints, hreads⟩ := ofEntries_eq_ok.mp he
  refine ⟨entries, items, headings, registry, hints, hs, hreads, ?_⟩
  refine hreads.readDomains.imp ?_
  rintro heading d hc
  obtain ⟨properties, hp, hc⟩ := bind_eq_ok.mp hc
  cases hc
  refine (DomainProperty.forall₂_of_ofEntries hp).imp ?_
  rintro v p ⟨place, ordinal, isLast, hv⟩
  exact DomainProperty.agrees_of_ofEntry (lookup_eq_domain? hreads) hv

def sharedNameText : String :=
  "domains:\n- name: B\n- name: io.y.B\n- name: io.x.A\n  properties: "
    ++ "[\x7bname: a, type: \"io.y.B<List<B?>, A, Missing>\"\x7d]"

def found (doc : Document) (names : List String) : List (Option String) :=
  names.map fun name => (doc.domain? name).map (·.qualifiedName)

theorem domain?_agrees_with_types_sharedNameText : ∃ doc, ofText sharedNameText = .ok doc ∧
    found doc ["B", "io.y.B", "A", "Missing"] =
      [some "B", some "io.y.B", some "io.x.A", none] ∧
    ∃ entries items headings registry hints, sections sharedNameText = .ok entries ∧
      Reads entries doc items headings registry hints ∧
      List.Forall₂ (fun heading d =>
        List.Forall₂ (DomainProperty.Agrees doc) heading.properties d.properties)
        headings doc.domains := by
  have hy : yields (ofText sharedNameText) (fun doc =>
      found doc ["B", "io.y.B", "A", "Missing"] ==
        [some "B", some "io.y.B", some "io.x.A", none]) = true := by decide +kernel
  obtain ⟨doc, h, hy⟩ := exists_of_yields hy
  exact ⟨doc, h, beq_iff_eq.mp hy, domain?_agrees_with_types h⟩

end Document

end FluentKotlin
