import FluentKotlin.Document.Text
import FluentKotlin.Proofs.Document.Slips

/-! # Texts with a fault that is not explained

Most texts that are no document have a fault that says so. The others have a frontmatter with a flaw
in its notation, make the loader of the notation fail, or let a fault slip through an entry.
-/

namespace FluentKotlin

namespace Document

variable {entries : Entries} {text : String}

/-- What slips in the sections of a document is the first fault in them. -/
inductive Slips (entries : Entries) : Prop where
  | heading {options : Entries} {items : List Value} :
      mappingField "options" entries = .ok options →
      itemsOf "domains" (fieldOrNull "domains" entries) = .ok items →
      First (fun v => ∃ h, Heading.ofEntry 0 v = .ok h) Heading.Slips items → Slips entries
  | name {options : Entries} {items : List Value} {headings : List Heading} :
      mappingField "options" entries = .ok options →
      itemsOf "domains" (fieldOrNull "domains" entries) = .ok items →
      Heading.ofEntries 0 items = .ok headings →
      Registry.Slips [] (headings.map (·.domain)) → Slips entries
  | transform {options hints : Entries} {items : List Value} {headings : List Heading}
      {registry : Registry} :
      mappingField "options" entries = .ok options →
      itemsOf "domains" (fieldOrNull "domains" entries) = .ok items →
      Heading.ofEntries 0 items = .ok headings →
      Registry.ofDomains (headings.map (·.domain)) = .ok registry →
      mappingField "transforms" entries = .ok hints → Transforms.Slips registry [] hints →
      Slips entries
  | property {options hints : Entries} {items : List Value} {headings : List Heading}
      {registry : Registry} {transforms : Transforms} :
      mappingField "options" entries = .ok options →
      itemsOf "domains" (fieldOrNull "domains" entries) = .ok items →
      Heading.ofEntries 0 items = .ok headings →
      Registry.ofDomains (headings.map (·.domain)) = .ok registry →
      mappingField "transforms" entries = .ok hints →
      Transforms.ofEntries registry [] hints = .ok transforms →
      First (fun h => ∃ d, h.complete registry transforms = .ok d) (fun h =>
        First (DomainProperty.Describes (h.scope registry))
          (DomainProperty.Slips (h.scope registry)) h.properties) headings →
      Slips entries

theorem escapes_ofEntries : Escapes (ofEntries entries) ↔ Slips entries := by
  have hfield (key : String) : ¬ Escapes (mappingField key entries) := not_escapes_mappingOf
  have hregistry (ds : List DomainType) : Escapes (Registry.ofDomains ds) ↔ Registry.Slips [] ds :=
    Registry.escapes_addAll
  unfold ofEntries
  simp only [escapes_bind, hfield, not_escapes_itemsOf, Heading.escapes_ofEntries, hregistry,
    Transforms.escapes_ofEntries, Heading.escapes_completeAll, not_escapes_pure, false_or,
    and_false, exists_false, or_false]
  constructor
  · rintro ⟨options, ho, items, hi, h | ⟨headings, hh, h | ⟨registry, hr, hints, hm,
      h | ⟨transforms, ht, h⟩⟩⟩⟩
    · exact .heading ho hi h
    · exact .name ho hi hh h
    · exact .transform ho hi hh hr hm h
    · exact .property ho hi hh hr hm ht h
  · rintro (⟨ho, hi, h⟩ | ⟨ho, hi, hh, h⟩ | ⟨ho, hi, hh, hr, hm, h⟩ | ⟨ho, hi, hh, hr, hm, ht, h⟩)
    · exact ⟨_, ho, _, hi, Or.inl h⟩
    · exact ⟨_, ho, _, hi, Or.inr ⟨_, hh, Or.inl h⟩⟩
    · exact ⟨_, ho, _, hi, Or.inr ⟨_, hh, Or.inr ⟨_, hr, _, hm, Or.inl h⟩⟩⟩
    · exact ⟨_, ho, _, hi, Or.inr ⟨_, hh, Or.inr ⟨_, hr, _, hm, Or.inr ⟨_, ht, h⟩⟩⟩⟩

def isForeign : Yaml.Flaw → Bool
  | .scalar _ | .tooDeep => true
  | _ => false

/-- What slips in a text: any flaw of a frontmatter, a failing loader elsewhere, or what slips in
the sections. -/
inductive TextSlips (text : String) : Prop where
  | frontmatter {after part : List Char} {flaw : Yaml.Flaw} : afterOpening? text = some after →
      beforeClosing after = some part → Yaml.read (String.ofList part) = .error flaw →
      TextSlips text
  | loader {flaw : Yaml.Flaw} : afterOpening? text = none → Yaml.read text = .error flaw →
      isForeign flaw = true → TextSlips text
  | sections {entries : Entries} : sections text = .ok entries → Slips entries → TextSlips text

theorem not_escapes_sectionsOr {fault : DocumentError} (hf : fault.isExplained = true) (v : Value) :
    ¬ Escapes (sectionsOr fault v) := by
  unfold sectionsOr
  split
  · exact not_escapes_ok _
  · split
    · exact not_escapes_ok _
    · simp [hf]

theorem escapes_sectionsOfPart {flawed : Yaml.Flaw → DocumentError} {misshapen : DocumentError}
    (hm : misshapen.isExplained = true) {part : String} :
    Escapes (sectionsOfPart flawed misshapen part) ↔ ∃ flaw, Yaml.read part = .error flaw ∧
      (isForeign flaw = true ∨ (flawed flaw).isExplained = false) := by
  unfold sectionsOfPart
  split
  case h_1 v hv =>
    refine iff_of_false (not_escapes_sectionsOr hm v) ?_
    rintro ⟨flaw, hf, -⟩
    cases hv.symm.trans hf
  case h_2 e he => exact iff_of_true ⟨_, rfl, rfl⟩ ⟨_, he, Or.inl rfl⟩
  case h_3 he => exact iff_of_true ⟨_, rfl, rfl⟩ ⟨_, he, Or.inl rfl⟩
  case h_4 flaw hscalar hdeep he =>
    rw [escapes_error]
    constructor
    · exact fun h => ⟨flaw, he, Or.inr h⟩
    · rintro ⟨other, ho, h⟩
      cases he.symm.trans ho
      refine h.resolve_left ?_
      unfold isForeign
      split
      · exact absurd rfl (hscalar _)
      · exact absurd rfl hdeep
      · exact Bool.false_ne_true

theorem escapes_sections : Escapes (sections text) ↔
    (∃ after part flaw, afterOpening? text = some after ∧ beforeClosing after = some part ∧
      Yaml.read (String.ofList part) = .error flaw) ∨
    afterOpening? text = none ∧ ∃ flaw, Yaml.read text = .error flaw ∧ isForeign flaw = true := by
  unfold sections
  cases ha : afterOpening? text with
  | none =>
    have hmalformed (flaw : Yaml.Flaw) : (DocumentError.malformed flaw).isExplained = true := rfl
    have hshape : DocumentError.shape.isExplained = true := rfl
    dsimp only
    simp [escapes_sectionsOfPart hshape, hmalformed]
  | some after =>
    have hmalformed (flaw : Yaml.Flaw) :
        (DocumentError.malformedFrontmatter flaw).isExplained = false := rfl
    have hshape : DocumentError.frontmatterShape.isExplained = true := rfl
    unfold sectionsOfFrontmatter
    cases hb : beforeClosing after with
    | none => simp [DocumentError.isExplained, hb]
    | some part => simp [escapes_sectionsOfPart hshape, hmalformed, hb]

theorem escapes_ofText : Escapes (ofText text) ↔ TextSlips text := by
  unfold ofText
  rw [escapes_bind, escapes_sections]
  simp only [escapes_ofEntries]
  constructor
  · rintro ((⟨after, part, flaw, ha, hb, hr⟩ | ⟨ha, flaw, hr, hf⟩) | ⟨entries, hs, h⟩)
    · exact .frontmatter ha hb hr
    · exact .loader ha hr hf
    · exact .sections hs h
  · rintro (⟨ha, hb, hr⟩ | ⟨ha, hr, hf⟩ | ⟨hs, h⟩)
    · exact Or.inl (Or.inl ⟨_, _, _, ha, hb, hr⟩)
    · exact Or.inl (Or.inr ⟨ha, _, hr, hf⟩)
    · exact Or.inr ⟨_, hs, h⟩

/-- A text is a document or has a fault that is explained, exactly where nothing slips in it. -/
theorem ofText_explained_iff (text : String) :
    ((∃ doc, ofText text = .ok doc) ∨ ∃ e, ofText text = .error e ∧ e.isExplained = true) ↔
      ¬ TextSlips text := by
  rw [← not_escapes_iff, escapes_ofText]

def openListText : String := "---\na: [\n---\n"

theorem ofText_openListText_unexplained :
    ¬ ((∃ doc, ofText openListText = .ok doc) ∨
      ∃ e, ofText openListText = .error e ∧ e.isExplained = true) := by
  have he : Escapes (ofText openListText) := by decide +kernel
  exact fun h => not_escapes_iff.mpr h he

/-- The same list is explained where it is no frontmatter. -/
example : ¬ Escapes (ofText "a: [") := by decide +kernel

example : Escapes (ofText "domains:\n- name: .") := by decide +kernel

end Document

end FluentKotlin
