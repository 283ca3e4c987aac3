import FluentKotlin.Document.Text
import FluentKotlin.Proofs.Document.Sections
import FluentKotlin.Proofs.Document.TypeText
import Mathlib.Data.List.Nodup

/-! # What an accepted document promises

The domains of an accepted document have names that denote classes, and no two of them the same.
Everything that their properties refer to is denoted, be it declared, the input of a transform, or
the type of a default.
-/

namespace FluentKotlin

variable {ds es : List DomainType} {d : DomainType}

def TransformHint.Denoted (ds : List DomainType) (hint : TransformHint) : Prop :=
  ∀ r, hint.input = some r → r.Denoted ds

structure DomainProperty.Denoted (ds : List DomainType) (p : DomainProperty) : Prop where
  declared : p.declared.Denoted ds
  transform : ∀ hint, p.transform = some hint → hint.Denoted ds
  default : ∀ hint, p.default = some hint → hint.valueType.Denoted ds

/-- The document names every domain once, and mentions no type but those that are denoted. -/
structure Document.Closed (doc : Document) : Prop where
  distinct : (doc.domains.map (·.qualifiedName)).Nodup
  named : ∀ d ∈ doc.domains, ClassName.IsName d.qualifiedName
  denoted : ∀ d ∈ doc.domains, ∀ p ∈ d.properties, p.Denoted doc.domains

namespace Registry

variable {registry next : Registry}

/-- The registry of some domains, which all have names of their own. -/
structure Registers (ds : List DomainType) (registry : Registry) : Prop where
  covers : registry.Covers ds
  distinct : (ds.map (·.qualifiedName)).Nodup
  found : ∀ d ∈ ds, ∃ e, registry.lookup d.qualifiedName = some e

theorem registers_nil : Registers [] [] where
  covers := by
    constructor
    · intro name d h
      cases h
    · intro d h
      cases h
  distinct := List.nodup_nil
  found := by
    intro d h
    cases h

theorem add_eq_ok (h : registry.add d = .ok next) :
    registry.lookup d.qualifiedName = none ∧ ∃ name, d.simpleName = .ok name ∧
      next = addNew name d (addNew d.qualifiedName d registry) := by
  unfold add at h
  cases hl : registry.lookup d.qualifiedName with
  | some e =>
    rw [hl] at h
    cases h
  | none =>
    rw [hl] at h
    obtain ⟨name, hn, h⟩ := bind_eq_ok.mp h
    exact ⟨rfl, name, mapError_eq_ok.mp hn, (pure_eq_ok.mp h).symm⟩

theorem isName_of_simpleName {name : String} (h : d.simpleName = .ok name) :
    ClassName.IsName d.qualifiedName := by
  obtain ⟨c, hc, _⟩ := map_eq_ok.mp h
  exact ClassName.isName_of_ofQualified hc

/-- A name that the registry had keeps its domain, and every other name is one of the new one. -/
theorem lookup_of_add (h : registry.add d = .ok next) {name : String} {e : DomainType}
    (he : next.lookup name = some e) : registry.lookup name = some e ∨
      e = d ∧ (name = d.qualifiedName ∨ d.simpleName = .ok name) := by
  obtain ⟨_, simple, hs, rfl⟩ := add_eq_ok h
  rw [lookup_addNew, lookup_addNew] at he
  cases hl : registry.lookup name with
  | some f =>
    rw [hl] at he
    cases he
    exact Or.inl rfl
  | none =>
    rw [hl] at he
    right
    by_cases hq : name = d.qualifiedName
    · rw [if_pos hq] at he
      cases he
      exact ⟨rfl, Or.inl hq⟩
    · rw [if_neg hq] at he
      by_cases hsimple : name = simple
      · rw [if_pos hsimple] at he
        cases he
        exact ⟨rfl, Or.inr (hsimple ▸ hs)⟩
      · rw [if_neg hsimple] at he
        cases he

theorem lookup_add_of_some (h : registry.add d = .ok next) {name : String} {e : DomainType}
    (he : registry.lookup name = some e) : next.lookup name = some e := by
  obtain ⟨_, simple, _, rfl⟩ := add_eq_ok h
  rw [lookup_addNew, lookup_addNew, he]
  rfl

theorem lookup_add_self (h : registry.add d = .ok next) :
    next.lookup d.qualifiedName = some d := by
  obtain ⟨hl, simple, _, rfl⟩ := add_eq_ok h
  rw [lookup_addNew, lookup_addNew, hl, if_pos rfl]
  rfl

theorem exists_lookup_of_add (h : registry.add d = .ok next) {name : String}
    (hn : d.simpleName = .ok name) : ∃ e, next.lookup name = some e := by
  obtain ⟨_, simple, hs, rfl⟩ := add_eq_ok h
  cases hs.symm.trans hn
  rw [lookup_addNew, if_pos rfl]
  cases (addNew d.qualifiedName d registry).lookup name with
  | some e => exact ⟨e, Option.some_or⟩
  | none => exact ⟨d, Option.none_or⟩

theorem Registers.add (hr : registry.Registers ds) (h : registry.add d = .ok next) :
    next.Registers (ds ++ [d]) := by
  obtain ⟨hl, name, hn, _⟩ := add_eq_ok h
  constructor
  · constructor
    · intro other e he
      rw [List.mem_append, List.mem_singleton]
      exact (lookup_of_add h he).imp hr.covers.mem And.left
    · intro e he
      rcases List.mem_append.mp he with he | he
      · exact hr.covers.isName e he
      · rw [List.mem_singleton.mp he]
        exact isName_of_simpleName hn
  · rw [List.map_append, List.nodup_append]
    refine ⟨hr.distinct, List.nodup_singleton _, ?_⟩
    intro a ha b hb hab
    obtain ⟨e, he, rfl⟩ := List.mem_map.mp ha
    obtain ⟨f, hf⟩ := hr.found e he
    rw [hab, List.mem_singleton.mp hb] at hf
    rw [hl] at hf
    cases hf
  · intro e he
    rcases List.mem_append.mp he with he | he
    · obtain ⟨f, hf⟩ := hr.found e he
      exact ⟨f, lookup_add_of_some h hf⟩
    · rw [List.mem_singleton.mp he]
      exact ⟨d, lookup_add_self h⟩

theorem Registers.addAll (hr : registry.Registers ds) (h : registry.addAll es = .ok next) :
    next.Registers (ds ++ es) := by
  induction es generalizing ds registry with
  | nil =>
    cases h
    rw [List.append_nil]
    exact hr
  | cons e es ih =>
    unfold Registry.addAll at h
    obtain ⟨mid, hm, h⟩ := bind_eq_ok.mp h
    rw [List.append_cons]
    exact ih (hr.add hm) h

theorem registers_of_ofDomains (h : ofDomains ds = .ok registry) : registry.Registers ds :=
  registers_nil.addAll h

end Registry

variable {registry : Registry}

theorem Registry.Covers.denoted_readTypeText (hc : registry.Covers ds) {package text : String}
    {x : TypeRef × Bool} (h : readTypeText registry package text = .ok x) : x.1.Denoted ds :=
  hc.denoted_readType (mapError_eq_ok.mp h)

namespace Transforms

def Denoted (ds : List DomainType) (ts : Transforms) : Prop :=
  ∀ name hint, ts.lookup name = some hint → hint.Denoted ds

theorem denoted_inputOf (hc : registry.Covers ds) {key : Scalar} {text : String}
    {input : Option TypeRef} (h : TransformHint.inputOf registry key text = .ok input) :
    ∀ r, input = some r → r.Denoted ds := by
  intro r hr
  subst hr
  unfold TransformHint.inputOf at h
  split at h
  · cases h
  · obtain ⟨package, _, h⟩ := bind_eq_ok.mp h
    obtain ⟨x, hx, h⟩ := bind_eq_ok.mp h
    cases h
    exact hc.denoted_readTypeText hx

theorem denoted_ofEntry (hc : registry.Covers ds) {key : Scalar} {v : Value}
    {hint : TransformHint} (h : TransformHint.ofEntry registry key v = .ok hint) :
    hint.Denoted ds := by
  unfold TransformHint.ofEntry at h
  obtain ⟨place, _, h⟩ := bind_eq_ok.mp h
  obtain ⟨entries, _, h⟩ := bind_eq_ok.mp h
  obtain ⟨text, _, h⟩ := bind_eq_ok.mp h
  obtain ⟨input, hi, h⟩ := bind_eq_ok.mp h
  obtain ⟨template, _, h⟩ := bind_eq_ok.mp h
  cases h
  exact denoted_inputOf hc hi

theorem Denoted.put {ts : Transforms} (ht : ts.Denoted ds) {hint : TransformHint}
    (hh : hint.Denoted ds) (name : String) : (ts.put name hint).Denoted ds := by
  intro other g hg
  rw [lookup_put] at hg
  split at hg
  · cases hg
    exact hh
  · exact ht other g hg

theorem Denoted.ofEntries (hc : registry.Covers ds) {ts result : Transforms} {entries : Entries}
    (ht : ts.Denoted ds) (h : Transforms.ofEntries registry ts entries = .ok result) :
    result.Denoted ds := by
  induction entries generalizing ts with
  | nil =>
    cases h
    exact ht
  | cons entry entries ih =>
    obtain ⟨key, v⟩ := entry
    unfold Transforms.ofEntries at h
    obtain ⟨hint, hh, h⟩ := bind_eq_ok.mp h
    exact ih (ht.put (denoted_ofEntry hc hh) _) h

end Transforms

theorem DefaultHint.denoted_typeOf {scope : TypeScope} (hc : scope.registry.Covers ds)
    {declared r : TypeRef} (hd : declared.Denoted ds) {v : Value}
    (h : typeOf scope declared v = .ok r) : r.Denoted ds := by
  unfold typeOf at h
  split at h
  · cases h
    exact hd
  · obtain ⟨text, _, h⟩ := bind_eq_ok.mp h
    obtain ⟨x, hx, h⟩ := bind_eq_ok.mp h
    cases h
    exact hc.denoted_readTypeText hx

theorem DefaultHint.denoted_ofValue {scope : TypeScope} (hc : scope.registry.Covers ds)
    {declared : TypeRef} (hd : declared.Denoted ds) {place : String} {v : Value}
    {default : Option DefaultHint} (h : ofValue scope place declared v = .ok default) :
    ∀ hint, default = some hint → hint.valueType.Denoted ds := by
  intro hint hh
  subst hh
  unfold ofValue at h
  split at h
  · cases h
  · split at h
    · cases h
    · obtain ⟨r, hr, h⟩ := bind_eq_ok.mp h
      obtain ⟨literal, _, h⟩ := bind_eq_ok.mp h
      cases h
      exact denoted_typeOf hc hd hr
  · obtain ⟨literal, _, h⟩ := bind_eq_ok.mp h
    cases h
    exact hd

namespace DomainProperty

variable {scope : TypeScope} {transforms : Transforms} {place : String} {ordinal : Nat}

theorem denoted_ofEntry (hc : scope.registry.Covers ds) (ht : transforms.Denoted ds)
    {isLast : Bool} {v : Value} {p : DomainProperty}
    (h : ofEntry scope transforms place ordinal isLast v = .ok p) : p.Denoted ds := by
  unfold ofEntry at h
  obtain ⟨entries, _, h⟩ := bind_eq_ok.mp h
  obtain ⟨name, _, h⟩ := bind_eq_ok.mp h
  obtain ⟨text, _, h⟩ := bind_eq_ok.mp h
  obtain ⟨⟨declared, nullable⟩, hx, h⟩ := bind_eq_ok.mp h
  dsimp only at h
  obtain ⟨default, hv, h⟩ := bind_eq_ok.mp h
  cases h
  have hd : declared.Denoted ds := hc.denoted_readTypeText hx
  exact ⟨hd, ht _, DefaultHint.denoted_ofValue hc hd hv⟩

theorem denoted_ofEntries (hc : scope.registry.Covers ds) (ht : transforms.Denoted ds)
    {vs : List Value} {ps : List DomainProperty}
    (h : ofEntries scope transforms place ordinal vs = .ok ps) : ∀ p ∈ ps, p.Denoted ds := by
  intro p hp
  obtain ⟨v, _, _, _, _, hv⟩ := exists_mem_left (forall₂_of_ofEntries h) hp
  exact denoted_ofEntry hc ht hv

end DomainProperty

namespace Heading

variable {transforms : Transforms}

/-- A heading with its properties is the domain that the heading announced. -/
structure Completes (ds : List DomainType) (h : Heading) (d : DomainType) : Prop where
  heading : ∃ properties, d = { h.domain with properties }
  denoted : ∀ p ∈ d.properties, p.Denoted ds

theorem completes_complete (hc : registry.Covers ds) (ht : transforms.Denoted ds) {h : Heading}
    (hd : h.complete registry transforms = .ok d) : h.Completes ds d := by
  unfold complete at hd
  obtain ⟨properties, hp, hd⟩ := bind_eq_ok.mp hd
  cases hd
  have hs : (h.scope registry).registry.Covers ds := hc
  exact ⟨⟨properties, rfl⟩, DomainProperty.denoted_ofEntries hs ht hp⟩

theorem completes_completeAll (hc : registry.Covers ds) (ht : transforms.Denoted ds)
    {hs : List Heading} (h : completeAll registry transforms hs = .ok es) :
    List.Forall₂ (Completes ds) hs es :=
  (completeAll_eq_ok.mp h).imp fun _ _ hd => completes_complete hc ht hd

variable {hs : List Heading}

theorem map_qualifiedName_of_completes (h : List.Forall₂ (Completes ds) hs es) :
    es.map (·.qualifiedName) = (hs.map (·.domain)).map (·.qualifiedName) := by
  induction h with
  | nil => rfl
  | cons hc _ ih =>
    obtain ⟨⟨properties, rfl⟩, _⟩ := hc
    simp only [List.map_cons, ih]

theorem exists_mem_of_completes (h : List.Forall₂ (Completes ds) hs es) :
    (∀ d ∈ hs.map (·.domain), ∃ e ∈ es, e.qualifiedName = d.qualifiedName ∧
      e.listGroup = d.listGroup ∧ e.mapGroup = d.mapGroup) ∧
    ∀ e ∈ es, ∀ p ∈ e.properties, p.Denoted ds := by
  induction h with
  | nil => exact ⟨List.forall_mem_nil _, List.forall_mem_nil _⟩
  | cons hc _ ih =>
    obtain ⟨⟨properties, rfl⟩, hp⟩ := hc
    obtain ⟨ihm, ihp⟩ := ih
    refine ⟨List.forall_mem_cons.mpr ⟨?_, ?_⟩, List.forall_mem_cons.mpr ⟨hp, ihp⟩⟩
    · exact ⟨_, List.mem_cons_self, rfl, rfl, rfl⟩
    · intro d hd
      obtain ⟨e, he, heq⟩ := ihm d hd
      exact ⟨e, List.mem_cons_of_mem _ he, heq⟩

end Heading

theorem DomainProperty.Denoted.mono {p : DomainProperty} (h : p.Denoted ds)
    (hs : ∀ d ∈ ds, ∃ e ∈ es, e.qualifiedName = d.qualifiedName ∧ e.listGroup = d.listGroup ∧
      e.mapGroup = d.mapGroup) : p.Denoted es where
  declared := h.declared.mono hs
  transform hint hh r hr := (h.transform hint hh r hr).mono hs
  default hint hh := (h.default hint hh).mono hs

namespace Document

variable {doc : Document}

theorem closed_of_ofEntries {entries : Entries} (h : ofEntries entries = .ok doc) :
    doc.Closed := by
  unfold ofEntries at h
  obtain ⟨options, _, h⟩ := bind_eq_ok.mp h
  obtain ⟨items, _, h⟩ := bind_eq_ok.mp h
  obtain ⟨headings, _, h⟩ := bind_eq_ok.mp h
  obtain ⟨registry, hr, h⟩ := bind_eq_ok.mp h
  obtain ⟨hints, _, h⟩ := bind_eq_ok.mp h
  obtain ⟨transforms, ht, h⟩ := bind_eq_ok.mp h
  obtain ⟨domains, hd, h⟩ := bind_eq_ok.mp h
  cases h
  have hg := Registry.registers_of_ofDomains hr
  have empty_denoted : Transforms.Denoted (headings.map (·.domain)) [] := by
    intro name hint hh
    cases hh
  have hc := Heading.completes_completeAll hg.covers (empty_denoted.ofEntries hg.covers ht) hd
  have hq := Heading.map_qualifiedName_of_completes hc
  obtain ⟨hm, hp⟩ := Heading.exists_mem_of_completes hc
  constructor
  · rw [hq]
    exact hg.distinct
  · intro d hd
    have hmem : d.qualifiedName ∈ (headings.map (·.domain)).map (·.qualifiedName) :=
      hq ▸ List.mem_map_of_mem hd
    obtain ⟨e, he, hn⟩ := List.mem_map.mp hmem
    exact hn ▸ hg.covers.isName e he
  · intro d hd p hpd
    exact (hp d hd p hpd).mono hm

theorem exists_entries_of_ofText {text : String} (h : ofText text = .ok doc) :
    ∃ entries, ofEntries entries = .ok doc := by
  obtain ⟨entries, _, he⟩ := bind_eq_ok.mp h
  exact ⟨entries, he⟩

/-- An accepted text describes a document that is closed. -/
theorem closed_of_ofText {text : String} (h : ofText text = .ok doc) : doc.Closed := by
  obtain ⟨entries, he⟩ := exists_entries_of_ofText h
  exact closed_of_ofEntries he

theorem exists_properties {text : String}
    {test : Document → DomainType → DomainProperty → DomainProperty → Bool}
    (h : yields (ofText text) (fun doc => doc.domains.any fun d =>
      d.properties.any fun p => d.properties.any (test doc d p)) = true) :
    ∃ doc d p q, ofText text = .ok doc ∧ d ∈ doc.domains ∧ p ∈ d.properties ∧
      q ∈ d.properties ∧ test doc d p q = true := by
  obtain ⟨doc, hdoc, h⟩ := exists_of_yields h
  obtain ⟨d, hd, h⟩ := List.any_eq_true.mp h
  obtain ⟨p, hp, h⟩ := List.any_eq_true.mp h
  obtain ⟨q, hq, h⟩ := List.any_eq_true.mp h
  exact ⟨doc, d, p, q, hdoc, hd, hp, hq, h⟩

end Document

end FluentKotlin
