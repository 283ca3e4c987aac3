import FluentKotlin.Proofs.Document.Acceptance
import FluentKotlin.Proofs.Document.Sections
import FluentKotlin.Proofs.Pointwise

/-! # Properties and their entries

Every property of an accepted document comes from an entry of it, so it has what an entry has to
have.
-/

namespace FluentKotlin

namespace DomainProperty

variable {scope : TypeScope} {transforms : Transforms} {place : String} {ordinal : Nat}
  {p : DomainProperty}

def Entered (p : DomainProperty) : Prop :=
  ∃ scope transforms place ordinal isLast v,
    ofEntry scope transforms place ordinal isLast v = .ok p

theorem entered_of_ofEntries {vs : List Value} {ps : List DomainProperty}
    (h : ofEntries scope transforms place ordinal vs = .ok ps) : ∀ p ∈ ps, p.Entered := by
  intro p hp
  obtain ⟨v, _, _, _, _, hv⟩ := exists_mem_left (forall₂_of_ofEntries h) hp
  exact ⟨_, _, _, _, _, v, hv⟩

theorem Entered.name_ne_empty (h : p.Entered) : p.name ≠ "" := by
  obtain ⟨_, _, _, _, _, _, h⟩ := h
  obtain ⟨⟨_, _, hreads⟩, -⟩ := ofEntry_eq_ok.mp h
  exact (requiredText_eq_ok.mp hreads.readName).2

end DomainProperty

namespace Heading

variable {registry : Registry} {transforms : Transforms}

theorem entered_of_complete {h : Heading} {d : DomainType}
    (hd : h.complete registry transforms = .ok d) : ∀ p ∈ d.properties, p.Entered := by
  unfold complete at hd
  obtain ⟨properties, hp, hd⟩ := bind_eq_ok.mp hd
  cases hd
  exact DomainProperty.entered_of_ofEntries hp

theorem entered_of_completeAll {hs : List Heading} {ds : List DomainType}
    (h : completeAll registry transforms hs = .ok ds) :
    ∀ d ∈ ds, ∀ p ∈ d.properties, p.Entered := by
  intro d hd
  obtain ⟨heading, _, hc⟩ := exists_mem_left (completeAll_eq_ok.mp h) hd
  exact entered_of_complete hc

end Heading

namespace Document

variable {doc : Document}

theorem entered_of_ofEntries {entries : Entries} (h : ofEntries entries = .ok doc) :
    ∀ d ∈ doc.domains, ∀ p ∈ d.properties, p.Entered := by
  unfold ofEntries at h
  obtain ⟨options, _, h⟩ := bind_eq_ok.mp h
  obtain ⟨items, _, h⟩ := bind_eq_ok.mp h
  obtain ⟨headings, _, h⟩ := bind_eq_ok.mp h
  obtain ⟨registry, _, h⟩ := bind_eq_ok.mp h
  obtain ⟨hints, _, h⟩ := bind_eq_ok.mp h
  obtain ⟨transforms, _, h⟩ := bind_eq_ok.mp h
  obtain ⟨domains, hd, h⟩ := bind_eq_ok.mp h
  cases h
  exact Heading.entered_of_completeAll hd

theorem name_ne_empty_of_ofText {text : String} (h : ofText text = .ok doc) :
    ∀ d ∈ doc.domains, ∀ p ∈ d.properties, p.name ≠ "" := by
  obtain ⟨entries, he⟩ := exists_entries_of_ofText h
  intro d hd p hp
  exact (entered_of_ofEntries he d hd p hp).name_ne_empty

end Document

end FluentKotlin
