import FluentKotlin.Document.Text
import FluentKotlin.Proofs.Document.Sections
import FluentKotlin.Proofs.Document.TypeNotation
import FluentKotlin.Proofs.Pointwise

/-! # The types of a document are read back

The domains of a document register dotted names, so the printed type of each property is read as the
declared type again, in the registry of the document and the package of the domain.
-/

namespace FluentKotlin

/-- The entry has a type text that declares the type of the property, and where no name of the text
is broken, the printed type declares the same. -/
def DomainProperty.RoundTrips (registry : Registry) (package : String) (v : Value)
    (p : DomainProperty) : Prop :=
  ∃ entries typeText, v.opened = .mapping entries ∧ textField "type" entries = .ok typeText ∧
    readTypeText registry package typeText = .ok (p.declared, p.nullable) ∧
    (HasWholeNames typeText → ∃ type, p.typeName = .ok type ∧
      readTypeText registry package type.written = .ok (p.declared, p.nullable))

variable {registry : Registry} {transforms : Transforms} {package : String}

theorem DomainProperty.roundTrips_of_ofEntry (hk : registry.Keyed)
    (hp : package = "" ∨ isDotted package = true) {place : String} {ordinal : Nat} {isLast : Bool}
    {v : Value} {p : DomainProperty}
    (h : ofEntry ⟨registry, package⟩ transforms place ordinal isLast v = .ok p) :
    p.RoundTrips registry package v := by
  obtain ⟨⟨entries, typeText, hreads⟩, -⟩ := ofEntry_eq_ok.mp h
  exact ⟨entries, typeText, hreads.opened, (requiredText_eq_ok.mp hreads.readTypeText).1,
    hreads.readType, hk.readTypeText_written hp hreads.readType⟩

theorem Heading.roundTrips_of_complete (hk : registry.Keyed) {h : Heading} {d : DomainType}
    (hd : isDotted d.qualifiedName = true) (hc : h.complete registry transforms = .ok d) :
    List.Forall₂ (DomainProperty.RoundTrips registry (Text.qualifier d.qualifiedName))
      h.properties d.properties := by
  obtain ⟨properties, hp, hc⟩ := bind_eq_ok.mp hc
  cases hc
  refine (DomainProperty.forall₂_of_ofEntries hp).imp ?_
  rintro v p ⟨place, ordinal, isLast, hv⟩
  exact DomainProperty.roundTrips_of_ofEntry hk (isDotted_qualifier hd) hv

namespace Document

/-- In an accepted document whose domains have dotted names, every type text without broken names
says the same as the type that is printed for it: the kind, the qualified name, the arguments with
their null marks, and whether the type is a domain of the document with group modes. -/
theorem types_roundTrip {text : String} {doc : Document} (h : ofText text = .ok doc)
    (hd : ∀ d ∈ doc.domains, isDotted d.qualifiedName = true) :
    ∃ entries items headings registry hints, sections text = .ok entries ∧
      Reads entries doc items headings registry hints ∧
      List.Forall₂ (fun heading d =>
        List.Forall₂ (DomainProperty.RoundTrips registry (Text.qualifier d.qualifiedName))
          heading.properties d.properties) headings doc.domains := by
  obtain ⟨entries, hs, he⟩ := bind_eq_ok.mp h
  obtain ⟨items, headings, registry, hints, hreads⟩ := ofEntries_eq_ok.mp he
  refine ⟨entries, items, headings, registry, hints, hs, hreads, ?_⟩
  have hnames : ∀ e ∈ headings.map (·.domain), isDotted e.qualifiedName = true := by
    intro e he
    obtain ⟨heading, hh, rfl⟩ := List.mem_map.mp he
    obtain ⟨d, hm, hc⟩ := exists_mem_right hreads.readDomains hh
    obtain ⟨properties, _, hc⟩ := bind_eq_ok.mp hc
    cases hc
    exact hd { heading.domain with properties } hm
  have hk : registry.Keyed := Registry.keyed_nil.addAll hnames hreads.readRegistry
  have hcomplete : List.Forall₂ (fun d heading => Heading.complete registry doc.transforms heading =
      .ok d) doc.domains headings := hreads.readDomains.flip
  exact (forall₂_imp_of_mem hcomplete fun d hm heading hc =>
    Heading.roundTrips_of_complete hk (hd d hm) hc).flip

def notedText : String :=
  "domains:\n- name: io.A\n  properties:\n  - name: a\n    type: Map<Int, List<A?>?>?\n"
    ++ "  - name: b\n    type: B<List>"

def printedTypes (doc : Document) : List (Option String) :=
  (doc.domains.flatMap (·.properties)).map fun p => p.typeName.toOption.map (·.written)

theorem types_roundTrip_notedText : ∃ doc, ofText notedText = .ok doc ∧
    (∀ d ∈ doc.domains, isDotted d.qualifiedName = true) ∧
    printedTypes doc =
      [some "kotlin.collections.Map<kotlin.Int, kotlin.collections.List<io.A?>?>?",
        some "io.B<kotlin.collections.List>"] ∧
    ∃ entries items headings registry hints, sections notedText = .ok entries ∧
      Reads entries doc items headings registry hints ∧
      List.Forall₂ (fun heading d =>
        List.Forall₂ (DomainProperty.RoundTrips registry (Text.qualifier d.qualifiedName))
          heading.properties d.properties) headings doc.domains := by
  have hy : yields (ofText notedText) (fun doc =>
      doc.domains.all (fun d => isDotted d.qualifiedName) &&
        printedTypes doc ==
          [some "kotlin.collections.Map<kotlin.Int, kotlin.collections.List<io.A?>?>?",
            some "io.B<kotlin.collections.List>"]) = true := by decide +kernel
  obtain ⟨doc, h, hy⟩ := exists_of_yields hy
  obtain ⟨hd, hw⟩ := (Bool.and_eq_true _ _).mp hy
  have hd := List.all_eq_true.mp hd
  exact ⟨doc, h, hd, beq_iff_eq.mp hw, types_roundTrip h hd⟩

end Document

end FluentKotlin
