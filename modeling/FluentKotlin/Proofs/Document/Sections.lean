import FluentKotlin.Document.Basic
import FluentKotlin.Proofs.Pointwise

/-! # What is read from the sections of a document

A document is accepted where each of its parts is: the entries of the headings one by one, the
registry of their domains, the transforms, and the domains with their properties.
-/

namespace FluentKotlin

theorem entryOf_eq_ok {place : String} {v : Value} {entries : Entries} :
    entryOf place v = .ok entries ↔ v.opened = .mapping entries := by
  unfold entryOf
  cases v.opened <;> simp

theorem requiredText_eq_ok {place key s : String} {entries : Entries} :
    requiredText place key entries = .ok s ↔ textField key entries = .ok s ∧ s ≠ "" := by
  unfold requiredText
  rw [bind_eq_ok]
  constructor
  · rintro ⟨t, ht, h⟩
    by_cases he : t = ""
    · rw [if_pos he] at h
      cases h
    · rw [if_neg he] at h
      cases h
      exact ⟨ht, he⟩
  · rintro ⟨hs, hne⟩
    exact ⟨s, hs, if_neg hne⟩

/-- The place of a mapping shows in its faults only. -/
theorem mappingOf_of_mappingOf {place : String} {v : Value} {entries : Entries}
    (h : mappingOf place v = .ok entries) (other : String) : mappingOf other v = .ok entries := by
  unfold mappingOf at h ⊢
  split at h
  · exact h
  · exact h
  · cases h

theorem requiredText_of_requiredText {place key s : String} {entries : Entries}
    (h : requiredText place key entries = .ok s) (other : String) :
    requiredText other key entries = .ok s :=
  requiredText_eq_ok.mpr (requiredText_eq_ok.mp h)

namespace Heading

variable {h : Heading} {v : Value}

theorem ofEntry_of_ofEntry {index : Nat} (hv : ofEntry index v = .ok h) (other : Nat) :
    ofEntry other v = .ok h := by
  obtain ⟨entries, he, hv⟩ := bind_eq_ok.mp hv
  obtain ⟨name, hn, hv⟩ := bind_eq_ok.mp hv
  unfold ofEntry
  dsimp only
  rw [entryOf_eq_ok.mpr (entryOf_eq_ok.mp he), ok_bind, requiredText_of_requiredText hn _, ok_bind]
  exact hv

theorem ofEntries_eq_ok {index : Nat} {vs : List Value} {hs : List Heading} :
    ofEntries index vs = .ok hs ↔ List.Forall₂ (fun v h => ofEntry 0 v = .ok h) vs hs := by
  induction vs generalizing index hs with
  | nil =>
    constructor
    · intro h
      cases h
      exact .nil
    · intro h
      cases h
      rfl
  | cons v vs ih =>
    unfold ofEntries
    constructor
    · intro h
      obtain ⟨heading, hh, h⟩ := bind_eq_ok.mp h
      obtain ⟨rest, hr, h⟩ := bind_eq_ok.mp h
      cases h
      exact .cons (ofEntry_of_ofEntry hh 0) (ih.mp hr)
    · rintro (_ | ⟨hh, hr⟩)
      rw [ofEntry_of_ofEntry hh index, ok_bind, ih.mpr hr]
      rfl

theorem completeAll_eq_ok {registry : Registry} {transforms : Transforms} {hs : List Heading}
    {ds : List DomainType} :
    completeAll registry transforms hs = .ok ds ↔
      List.Forall₂ (fun h d => h.complete registry transforms = .ok d) hs ds :=
  eq_ok_iff_forall₂ rfl fun _ _ => rfl

end Heading

theorem DefaultHint.ofValue_of_ofValue {scope : TypeScope} {place : String} {declared : TypeRef}
    {v : Value} {default : Option DefaultHint} (h : ofValue scope place declared v = .ok default)
    (other : String) : ofValue scope other declared v = .ok default := by
  unfold ofValue at h ⊢
  split at h
  · exact h
  · split at h
    · cases h
    · exact h
  · exact h

namespace DomainProperty

structure Reads (scope : TypeScope) (v : Value) (entries : Entries) (typeText : String)
    (p : DomainProperty) : Prop where
  opened : v.opened = .mapping entries
  readName : requiredText "" "name" entries = .ok p.name
  readTypeText : requiredText "" "type" entries = .ok typeText
  readType : scope.read typeText = .ok (p.declared, p.nullable)
  readDefault : DefaultHint.ofValue scope "" p.declared (fieldOrNull "default" entries) =
    .ok p.default

theorem ofEntry_eq_ok {scope : TypeScope} {transforms : Transforms} {place : String}
    {ordinal : Nat} {isLast : Bool} {v : Value} {p : DomainProperty} :
    ofEntry scope transforms place ordinal isLast v = .ok p ↔
      (∃ entries typeText, Reads scope v entries typeText p) ∧ p.ordinal = ordinal ∧
        p.isLast = isLast ∧ p.transform = transforms.forType p.declared := by
  constructor
  · intro h
    obtain ⟨entries, he, h⟩ := bind_eq_ok.mp h
    obtain ⟨name, hn, h⟩ := bind_eq_ok.mp h
    obtain ⟨typeText, ht, h⟩ := bind_eq_ok.mp h
    obtain ⟨⟨declared, nullable⟩, hread, h⟩ := bind_eq_ok.mp h
    obtain ⟨default, hd, h⟩ := bind_eq_ok.mp h
    cases h
    refine ⟨⟨entries, typeText, ?_⟩, rfl, rfl, rfl⟩
    exact ⟨entryOf_eq_ok.mp he, requiredText_of_requiredText hn _,
      requiredText_of_requiredText ht _, hread, DefaultHint.ofValue_of_ofValue hd _⟩
  · rintro ⟨⟨entries, typeText, he, hn, ht, hread, hd⟩, rfl, rfl, htransform⟩
    unfold ofEntry
    rw [entryOf_eq_ok.mpr he, ok_bind, requiredText_of_requiredText hn _, ok_bind,
      requiredText_of_requiredText ht _, ok_bind, hread, ok_bind]
    dsimp only
    rw [DefaultHint.ofValue_of_ofValue hd place, ok_bind, ← htransform]
    rfl

theorem forall₂_of_ofEntries {scope : TypeScope} {transforms : Transforms} {place : String}
    {ordinal : Nat} {vs : List Value} {ps : List DomainProperty}
    (h : ofEntries scope transforms place ordinal vs = .ok ps) :
    List.Forall₂ (fun v p => ∃ place ordinal isLast,
      ofEntry scope transforms place ordinal isLast v = .ok p) vs ps := by
  induction vs generalizing ordinal ps with
  | nil =>
    cases h
    exact .nil
  | cons v vs ih =>
    obtain ⟨p, hp, h⟩ := bind_eq_ok.mp h
    obtain ⟨qs, hqs, h⟩ := bind_eq_ok.mp h
    cases h
    exact .cons ⟨_, _, _, hp⟩ (ih hqs)

end DomainProperty

namespace Document

variable {entries : Entries} {doc : Document}

structure Reads (entries : Entries) (doc : Document) (items : List Value)
    (headings : List Heading) (registry : Registry) (hints : Entries) : Prop where
  readOptions : mappingField "options" entries = .ok doc.options
  readItems : itemsOf "domains" (fieldOrNull "domains" entries) = .ok items
  readHeadings : List.Forall₂ (fun v h => Heading.ofEntry 0 v = .ok h) items headings
  readRegistry : Registry.ofDomains (headings.map (·.domain)) = .ok registry
  readHints : mappingField "transforms" entries = .ok hints
  readTransforms : Transforms.ofEntries registry [] hints = .ok doc.transforms
  readDomains : List.Forall₂ (fun h d => h.complete registry doc.transforms = .ok d) headings
    doc.domains

theorem ofEntries_eq_ok : ofEntries entries = .ok doc ↔
    ∃ items headings registry hints, Reads entries doc items headings registry hints := by
  unfold ofEntries
  constructor
  · intro h
    obtain ⟨options, ho, h⟩ := bind_eq_ok.mp h
    obtain ⟨items, hi, h⟩ := bind_eq_ok.mp h
    obtain ⟨headings, hh, h⟩ := bind_eq_ok.mp h
    obtain ⟨registry, hr, h⟩ := bind_eq_ok.mp h
    obtain ⟨hints, hm, h⟩ := bind_eq_ok.mp h
    obtain ⟨transforms, ht, h⟩ := bind_eq_ok.mp h
    obtain ⟨domains, hd, h⟩ := bind_eq_ok.mp h
    cases h
    exact ⟨items, headings, registry, hints, ho, hi, Heading.ofEntries_eq_ok.mp hh, hr, hm, ht,
      Heading.completeAll_eq_ok.mp hd⟩
  · rintro ⟨items, headings, registry, hints, ho, hi, hh, hr, hm, ht, hd⟩
    rw [ho, ok_bind, hi, ok_bind, Heading.ofEntries_eq_ok.mpr hh, ok_bind, hr, ok_bind, hm, ok_bind,
      ht, ok_bind, Heading.completeAll_eq_ok.mpr hd]
    rfl

end Document

end FluentKotlin
