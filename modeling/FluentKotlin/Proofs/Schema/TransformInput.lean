import FluentKotlin.Proofs.Document.Entries
import FluentKotlin.Proofs.Document.Resolution
import FluentKotlin.Proofs.Document.TypeGrammar
import FluentKotlin.Proofs.Schema.Forms
import FluentKotlin.Proofs.Schema.Template
import FluentKotlin.Proofs.Schema.Total

/-! # Inputs of transforms

The transform of a property is the last one whose key is written as the name of its type. Its
accessor takes one parameter, of the type that the text of the input denotes in the package of that
name. The null marks of arguments are kept, and the one of the whole text is lost. -/

namespace FluentKotlin

variable {registry : Registry}

/-! ### The null mark of a text -/

section NullMark

variable {package text : String} {r : TypeRef}

theorem nullable_of_readTypeText {b : Bool} (h : readTypeText registry package text = .ok (r, b)) :
    r.nullable = false := by
  obtain ⟨⟨name, arguments, nullable⟩, -, htree⟩ := readTypeText_eq_ok.mp h
  cases htree
  rw [TypeTree.resolve]
  exact nullable_resolveName

theorem TypeRef.typeName_of_readTypeText {b : Bool}
    (h : readTypeText registry package text = .ok (r, b)) : r.typeName = r.typeAs false := by
  unfold typeName
  rw [nullable_of_readTypeText h]

theorem TypeRef.typeAs_eq_iff {bare type : TypeName} {b : Bool} (hb : r.typeAs false = .ok bare)
    (ht : r.typeAs b = .ok type) : bare = type ↔ b = false := by
  obtain ⟨whole, hw, rfl⟩ := map_eq_ok.mp hb
  obtain ⟨_, hw', rfl⟩ := map_eq_ok.mp ht
  cases hw.symm.trans hw'
  constructor
  · intro he
    have hn := congrArg TypeName.nullable he
    rw [TypeName.nullable_withNullable, TypeName.nullable_withNullable] at hn
    exact hn.symm
  · rintro rfl
    rfl

end NullMark

/-! ### Transforms by their keys -/

section Keys

variable {ts result : Transforms} {hints before after : Entries} {key : Scalar} {v : Value}
  {hint : TransformHint} {q : String}

theorem Transforms.ofEntries_append (before after : Entries) :
    Transforms.ofEntries registry ts (before ++ after) =
      Transforms.ofEntries registry ts before >>= fun mid => ofEntries registry mid after := by
  induction before generalizing ts with
  | nil => rfl
  | cons entry before ih =>
    obtain ⟨key, v⟩ := entry
    rw [List.cons_append, ofEntries, ofEntries, bind_assoc]
    exact bind_congr fun _ => ih

/-- A name keeps its transform, or has that of an entry whose key is written as the name. -/
theorem Transforms.lookup_ofEntries (h : Transforms.ofEntries registry ts hints = .ok result)
    (q : String) :
    (∀ e ∈ hints, e.1.written ≠ q) ∧ result.lookup q = ts.lookup q ∨
      ∃ e ∈ hints, ∃ hint, e.1.written = q ∧ TransformHint.ofEntry registry e.1 e.2 = .ok hint ∧
        result.lookup q = some hint := by
  induction hints generalizing ts with
  | nil =>
    cases h
    exact Or.inl ⟨List.forall_mem_nil _, rfl⟩
  | cons entry hints ih =>
    obtain ⟨key, v⟩ := entry
    obtain ⟨hint, hh, h⟩ := bind_eq_ok.mp h
    rcases ih h with ⟨hlater, hl⟩ | ⟨e, he, hl⟩
    · rw [lookup_put] at hl
      by_cases hq : q = key.written
      · rw [if_pos hq] at hl
        exact Or.inr ⟨_, List.mem_cons_self, hint, hq.symm, hh, hl⟩
      · rw [if_neg hq] at hl
        exact Or.inl ⟨List.forall_mem_cons.mpr ⟨Ne.symm hq, hlater⟩, hl⟩
    · exact Or.inr ⟨e, List.mem_cons_of_mem _ he, hl⟩

namespace TransformHint

theorem inputOf_eq_ok {text : String} {input : Option TypeRef}
    (h : inputOf registry key text = .ok input) :
    text = "" ∧ input = none ∨ text ≠ "" ∧ ∃ q r b, key = .text q ∧
      readTypeText registry (Text.qualifier q) text = .ok (r, b) ∧ input = some r := by
  unfold inputOf at h
  by_cases he : text = ""
  · rw [if_pos he] at h
    cases h
    exact Or.inl ⟨he, rfl⟩
  · rw [if_neg he] at h
    obtain ⟨package, hp, h⟩ := bind_eq_ok.mp h
    obtain ⟨⟨r, b⟩, hr, h⟩ := bind_eq_ok.mp h
    cases h
    cases key with
    | text q =>
      cases hp
      exact Or.inr ⟨he, q, r, b, rfl, hr, rfl⟩
    | _ => cases hp

theorem ofEntry_eq_ok (h : ofEntry registry key v = .ok hint) :
    ∃ fields text template, mappingOf "" v = .ok fields ∧ textField "inputType" fields = .ok text ∧
      inputOf registry key text = .ok hint.input ∧
      textField "template" fields = .ok template ∧ hint.template = templateOf template := by
  obtain ⟨place, -, h⟩ := bind_eq_ok.mp h
  obtain ⟨fields, hf, h⟩ := bind_eq_ok.mp h
  obtain ⟨text, ht, h⟩ := bind_eq_ok.mp h
  obtain ⟨input, hi, h⟩ := bind_eq_ok.mp h
  obtain ⟨template, htemplate, h⟩ := bind_eq_ok.mp h
  cases h
  exact ⟨fields, text, template, mappingOf_of_mappingOf hf _, ht, hi, htemplate, rfl⟩

theorem input_of_not_text (h : ofEntry registry key v = .ok hint) (hk : ∀ q, key ≠ .text q) :
    hint.input = none := by
  obtain ⟨_, _, _, -, -, hi, -⟩ := ofEntry_eq_ok h
  rcases inputOf_eq_ok hi with ⟨-, hnone⟩ | ⟨-, q, _, _, rfl, -⟩
  · exact hnone
  · exact absurd rfl (hk q)

end TransformHint

end Keys

/-- An entry of the transforms, which is the last with its key, has a text for its input. -/
structure Transforms.Hinted (hints : Entries) (key : Scalar) (later fields : Entries)
    (inputText : String) : Prop where
  entry : ∃ before v, hints = before ++ (key, v) :: later ∧ mappingOf "" v = .ok fields
  last : ∀ e ∈ later, e.1 ≠ key
  readInput : textField "inputType" fields = .ok inputText
  ne_empty : inputText ≠ ""

/-- The transform of the key has the input, unless a later key is written like it. Such a key is no
text, so its transform has none. -/
theorem Transforms.Hinted.exists_lookup {hints later fields : Entries} {key : Scalar}
    {inputText : String} {ts : Transforms}
    (hh : Hinted hints key later fields inputText)
    (h : Transforms.ofEntries registry [] hints = .ok ts) :
    ∃ q r b template, key = .text q ∧
      readTypeText registry (Text.qualifier q) inputText = .ok (r, b) ∧
      textField "template" fields = .ok template ∧
      ((∀ e ∈ later, e.1.written ≠ q) ∧
          ts.lookup q = some ⟨some r, TransformHint.templateOf template⟩ ∨
        (∃ e ∈ later, e.1.written = q) ∧ ∃ hint, ts.lookup q = some hint ∧ hint.input = none) := by
  obtain ⟨before, v, rfl, hf⟩ := hh.entry
  rw [ofEntries_append] at h
  obtain ⟨mid, -, h⟩ := bind_eq_ok.mp h
  obtain ⟨⟨input, shape⟩, hentry, h⟩ := bind_eq_ok.mp h
  obtain ⟨_, _, template, hf', ht, hi, htemplate, hshape⟩ := TransformHint.ofEntry_eq_ok hentry
  cases hf.symm.trans hf'
  cases hh.readInput.symm.trans ht
  rcases TransformHint.inputOf_eq_ok hi with ⟨he, -⟩ | ⟨-, q, r, b, rfl, hr, hinput⟩
  · exact absurd he hh.ne_empty
  refine ⟨q, r, b, template, rfl, hr, htemplate, ?_⟩
  rcases lookup_ofEntries h q with ⟨hfree, hl⟩ | ⟨e, he, hint, hw, hlater, hl⟩
  · rw [lookup_put, if_pos (show q = Scalar.written (.text q) from rfl)] at hl
    dsimp only at hinput hshape
    exact Or.inl ⟨hfree, by rw [hl, hinput, hshape]⟩
  · -- A text that is written like the key is the key, which no later entry has.
    have hkey : ∀ s, e.1 ≠ .text s := by
      intro s hs
      rw [hs] at hw
      have hs' : s = q := hw
      exact hh.last e he (hs' ▸ hs)
    exact Or.inr ⟨⟨e, he, hw⟩, hint, hl, TransformHint.input_of_not_text hlater hkey⟩

/-! ### Properties with a transform -/

namespace Document

variable {doc : Document} {entries hints : Entries} {items : List Value} {headings : List Heading}

theorem Reads.transform_eq (h : Reads entries doc items headings registry hints) {d : DomainType}
    (hd : d ∈ doc.domains) {p : DomainProperty} (hp : p ∈ d.properties) :
    p.transform = doc.transforms.forType p.declared := by
  obtain ⟨heading, -, hc⟩ := exists_mem_left h.readDomains hd
  obtain ⟨properties, hps, hc⟩ := bind_eq_ok.mp hc
  cases hc
  obtain ⟨v, -, place, ordinal, isLast, hv⟩ :=
    exists_mem_left (DomainProperty.forall₂_of_ofEntries hps) hp
  exact (DomainProperty.ofEntry_eq_ok.mp hv).2.2.2

end Document

namespace Schema

open Reporting Template

variable {known : KnownDomains} {label : Option String} {p : DomainProperty} {form : Form}
  {name text : String} {t input type : TypeName} {s : Schema}

theorem FormOf.of_hint {hint : TransformHint} (h : FormOf known p form)
    (ht : p.transform = some hint) :
    (∃ r t input, hint.input = some r ∧ r.typeName = .ok input ∧
      form = .transform t input hint.template) ∨
    hint.input = none ∧ ∃ t, form = .plain t := by
  cases h with
  | transform hh hi hp hr =>
    cases ht.symm.trans hh
    exact Or.inl ⟨_, _, _, hi, hr, rfl⟩
  | withoutInput hh hi hp =>
    cases ht.symm.trans hh
    exact Or.inr ⟨hi, _, rfl⟩
  | builder hn => simp [hn] at ht
  | _ hs => simp [hs.transform] at ht

/-- The property is set by a transform, and its accessor takes one value of the type. -/
def TakesInput (s : Schema) (type : TypeName) : Prop :=
  (∃ t input template, s.form = .transform t input template) ∧
    ∃ f parameter, s.accessor = .ok f ∧ f.parameters = [parameter] ∧ parameter.type = type

theorem parameters_of_transformAccessor {template : Option String} {f : FunctionDecl}
    (h : transformAccessor name t input template = .ok f) :
    f.parameters = [inputParameter input] := by
  obtain ⟨parameter, hp, h⟩ := bind_eq_ok.mp h
  obtain ⟨statement, -, h⟩ := bind_eq_ok.mp h
  cases hp
  exact parameters_of_accessorOf h

theorem exists_transformAccessor_iff (hn : name ≠ "") :
    (∃ f, transformAccessor name t input (TransformHint.templateOf text) = .ok f) ↔
      text = "" ∨ Valid text := by
  by_cases ht : text = ""
  · subst ht
    exact iff_of_true (exists_accessorOf hn _ _) (Or.inl rfl)
  · have htemplate : TransformHint.templateOf text = some text := if_neg ht
    rw [htemplate, or_iff_right ht]
    constructor
    · rintro ⟨f, hf⟩
      by_contra hv
      obtain ⟨found, he⟩ := transformAccessor_of_not_valid name t input ht hv
      cases hf.symm.trans he
    · rintro ⟨ps, hps⟩
      rw [transformAccessor_of_spelled ht hps]
      exact exists_accessorOf hn _ _

theorem takesInput_transform_iff (hn : p.name ≠ "") :
    TakesInput (make p (.transform t input (TransformHint.templateOf text))) type ↔
      (text = "" ∨ Valid text) ∧ input = type := by
  have hmade : (∃ f, transformAccessor p.name t input (TransformHint.templateOf text) = .ok f) ↔ _ :=
    exists_transformAccessor_iff hn
  rw [← hmade]
  constructor
  · rintro ⟨-, f, parameter, hf, hparameter, rfl⟩
    have hf : transformAccessor p.name t input (TransformHint.templateOf text) = .ok f := hf
    cases (parameters_of_transformAccessor hf).symm.trans hparameter
    exact ⟨⟨f, hf⟩, rfl⟩
  · rintro ⟨⟨f, hf⟩, rfl⟩
    exact ⟨⟨_, _, _, rfl⟩, f, _, hf, parameters_of_transformAccessor hf, rfl⟩

theorem Follows.takesInput_iff (h : Follows known p s) (hn : p.name ≠ "") {r : TypeRef}
    (ht : p.transform = some ⟨some r, TransformHint.templateOf text⟩)
    (hr : r.typeName = .ok input) :
    TakesInput s type ↔ (text = "" ∨ Valid text) ∧ input = type := by
  obtain ⟨form, rfl, hform⟩ := h
  rcases hform.of_hint ht with ⟨_, t, _, hi, hinput, rfl⟩ | ⟨hi, -⟩
  · cases hi
    cases hr.symm.trans hinput
    exact takesInput_transform_iff hn
  · cases hi

theorem Follows.not_takesInput (h : Follows known p s) {hint : TransformHint}
    (ht : p.transform = some hint) (hnone : hint.input = none) : ¬ TakesInput s type := by
  obtain ⟨form, rfl, hform⟩ := h
  rintro ⟨⟨_, _, _, hf⟩, -⟩
  rcases hform.of_hint ht with ⟨_, _, _, hi, -⟩ | ⟨-, t, rfl⟩
  · cases hnone.symm.trans hi
  · cases hf

/-- Every property of an accepted document whose type has a transform with an input gets a schema by
it. The accessor takes one parameter, whose type is the one that the text of the input denotes in
the package of its key, except for a null mark behind the whole text, which is lost. It is made
where the template is valid, if there is one, and the transform is lost where a later key that is no
text is written like the name of the type. -/
theorem transform_takesInput_iff {documentText : String} {doc : Document}
    (h : Document.ofText documentText = .ok doc) :
    ∃ entries items headings registry hints, Document.sections documentText = .ok entries ∧
      Document.Reads entries doc items headings registry hints ∧
      ∀ key later fields inputText, Transforms.Hinted hints key later fields inputText →
        ∃ q r nullable template type bare, key = .text q ∧
          readTypeText registry (Text.qualifier q) inputText = .ok (r, nullable) ∧
          textField "template" fields = .ok template ∧
          r.typeAs nullable = .ok type ∧ r.typeAs false = .ok bare ∧
          ∀ d ∈ doc.domains, ∀ p ∈ d.properties, p.declared.qualifiedName = some q →
            ∀ known label, ∃ s, value (classify known label p) = .ok s ∧
              (TakesInput s bare ↔
                (∀ e ∈ later, e.1.written ≠ q) ∧ (template = "" ∨ Valid template)) ∧
              (TakesInput s type ↔
                (∀ e ∈ later, e.1.written ≠ q) ∧ (template = "" ∨ Valid template) ∧
                  nullable = false) := by
  obtain ⟨entries, hs, he⟩ := bind_eq_ok.mp h
  obtain ⟨items, headings, registry, hints, hreads⟩ := Document.ofEntries_eq_ok.mp he
  refine ⟨entries, items, headings, registry, hints, hs, hreads, ?_⟩
  intro key later fields inputText hh
  obtain ⟨q, r, b, template, rfl, hr, htemplate, hlookup⟩ :=
    hh.exists_lookup hreads.readTransforms
  have hcovers := (Registry.registers_of_ofDomains hreads.readRegistry).covers
  have hdenoted : r.Denoted _ := hcovers.denoted_readTypeText hr
  obtain ⟨type, htype⟩ := hdenoted.exists_typeAs b
  obtain ⟨bare, hbare⟩ := hdenoted.exists_typeAs false
  refine ⟨q, r, b, template, type, bare, rfl, hr, htemplate, htype, hbare, ?_⟩
  intro d hd p hp hq known label
  have htransform : p.transform = doc.transforms.lookup q := by
    rw [hreads.transform_eq hd hp, Transforms.forType, hq, Option.getD_some]
  have hsettles : Settles (classify known label p) :=
    settles_classify ((Document.closed_of_ofText h).denoted d hd p hp)
  obtain ⟨s, hs⟩ := hsettles.returns
  have hfollows : Follows known p s := follows_classify hs
  have hname := Document.name_ne_empty_of_ofText h d hd p hp
  refine ⟨s, hs, ?_⟩
  rcases hlookup with ⟨hfree, hl⟩ | ⟨⟨e, he, hw⟩, hint, hl, hnone⟩
  · have hinput := (TypeRef.typeName_of_readTypeText hr).trans hbare
    rw [hfollows.takesInput_iff hname (htransform.trans hl) hinput,
      hfollows.takesInput_iff hname (htransform.trans hl) hinput, and_iff_right hfree,
      and_iff_right hfree, TypeRef.typeAs_eq_iff hbare htype]
    exact ⟨and_iff_left rfl, Iff.rfl⟩
  · have hnot (type : TypeName) : ¬ TakesInput s type :=
      hfollows.not_takesInput (htransform.trans hl) hnone
    exact ⟨iff_of_false (hnot _) fun h => h.1 e he hw, iff_of_false (hnot _) fun h => h.1 e he hw⟩

def hintedText (inputText : String) : String :=
  "transforms:\n  io.x.V:\n    inputType: " ++ inputText
    ++ "\ndomains:\n- name: io.x.A\n  properties:\n  - name: v\n    type: V"

def isHint (key inputText : String) : Entries → Bool
  | [(.text k, .mapping fields)] => k == key &&
    yields (textField "inputType" fields) (· == inputText) &&
    yields (textField "template" fields) (· == "")
  | _ => false

theorem hinted_of_isHint {key inputText : String} {hints : Entries}
    (h : isHint key inputText hints = true) (hne : inputText ≠ "") :
    ∃ fields, Transforms.Hinted hints (.text key) [] fields inputText ∧
      textField "template" fields = .ok "" := by
  unfold isHint at h
  split at h
  case h_1 k fields =>
    simp only [Bool.and_eq_true, beq_iff_eq] at h
    obtain ⟨⟨rfl, hi⟩, ht⟩ := h
    obtain ⟨_, hreadInput, hi⟩ := exists_of_yields hi
    obtain ⟨_, hreadTemplate, ht⟩ := exists_of_yields ht
    rw [beq_iff_eq.mp hi] at hreadInput
    rw [beq_iff_eq.mp ht] at hreadTemplate
    exact ⟨fields, ⟨⟨[], _, rfl, rfl⟩, List.forall_mem_nil _, hreadInput, hne⟩, hreadTemplate⟩
  case h_2 => cases h

def isHinted (inputText : String) (test : Document → Bool) : Bool :=
  yields (Document.sections (hintedText inputText)) fun entries =>
    yields (mappingField "transforms" entries) (isHint "io.x.V" inputText) &&
      yields (Document.ofEntries entries) test

section Hinted

variable {inputText : String} {test : Document → Bool}

theorem exists_of_isHinted (h : isHinted inputText test = true) :
    ∃ doc, Document.ofText (hintedText inputText) = .ok doc ∧ test doc = true := by
  obtain ⟨entries, hs, h⟩ := exists_of_yields h
  obtain ⟨doc, hdoc, htest⟩ := exists_of_yields ((Bool.and_eq_true _ _).mp h).2
  exact ⟨doc, bind_eq_ok.mpr ⟨entries, hs, hdoc⟩, htest⟩

theorem hinted_of_isHinted (h : isHinted inputText test = true) (hne : inputText ≠ "")
    {doc : Document} {entries hints : Entries} {items : List Value} {headings : List Heading}
    (hs : Document.sections (hintedText inputText) = .ok entries)
    (hreads : Document.Reads entries doc items headings registry hints) :
    ∃ fields, Transforms.Hinted hints (.text "io.x.V") [] fields inputText ∧
      textField "template" fields = .ok "" := by
  obtain ⟨others, ho, h⟩ := exists_of_yields h
  cases hs.symm.trans ho
  obtain ⟨_, hh, hhint⟩ := exists_of_yields ((Bool.and_eq_true _ _).mp h).1
  cases hreads.readHints.symm.trans hh
  exact hinted_of_isHint hhint hne

end Hinted

theorem nullable_of_ofText {package text : String} {r : TypeRef} {b c : Bool}
    (h : readTypeText registry package text = .ok (r, b))
    (hy : yields (TypeTree.ofText text) (·.nullable == c) = true) : b = c := by
  obtain ⟨tree, hd, htree⟩ := readTypeText_eq_ok.mp h
  cases htree
  obtain ⟨other, ho, hy⟩ := exists_of_yields hy
  cases ho.symm.trans (TypeTree.ofText_eq_ok.mpr hd)
  exact beq_iff_eq.mp hy

def mentions (q : String) (doc : Document) : Bool :=
  doc.domains.any fun d => d.properties.any fun p => p.declared.qualifiedName == some q

theorem transform_takesInput_iff_hintedText : ∃ doc d p registry r type s,
    Document.ofText (hintedText "List<String?>") = .ok doc ∧ d ∈ doc.domains ∧ p ∈ d.properties ∧
      p.declared.qualifiedName = some "io.x.V" ∧
      readTypeText registry "io.x" "List<String?>" = .ok (r, false) ∧ r.typeAs false = .ok type ∧
      value (classify (.ofList doc.domains) none p) = .ok s ∧ TakesInput s type := by
  have htext : isHinted "List<String?>" (mentions "io.x.V") = true := by decide +kernel
  obtain ⟨doc, h, hy⟩ := exists_of_isHinted htext
  obtain ⟨d, hd, hy⟩ := List.any_eq_true.mp hy
  obtain ⟨p, hp, hy⟩ := List.any_eq_true.mp hy
  obtain ⟨entries, items, headings, registry, hints, hs, hreads, hall⟩ := transform_takesInput_iff h
  obtain ⟨fields, hinted, htemplate⟩ := hinted_of_isHinted htext (by decide) hs hreads
  obtain ⟨q, r, b, template, type, bare, hq, hr, ht, htype, hbare, hall⟩ := hall _ _ _ _ hinted
  cases hq
  cases htemplate.symm.trans ht
  have hb : b = false := nullable_of_ofText hr (by decide +kernel)
  have hpackage : Text.qualifier "io.x.V" = "io.x" := by decide +kernel
  rw [hb] at hr htype
  rw [hpackage] at hr
  obtain ⟨s, hclassify, -, htakes⟩ := hall d hd p hp (beq_iff_eq.mp hy) (.ofList doc.domains) none
  exact ⟨doc, d, p, registry, r, type, s, h, hd, hp, beq_iff_eq.mp hy, hr, htype, hclassify,
    htakes.mpr ⟨List.forall_mem_nil _, Or.inl rfl, hb⟩⟩

/-- Every accessor of the type takes values that are not null. -/
def takesNonNull (q : String) (doc : Document) : Bool :=
  doc.domains.any fun d => d.properties.any fun p => p.declared.qualifiedName == some q &&
    yields (value (classify (.ofList doc.domains) none p)) fun s =>
      yields s.accessor fun f => f.parameters.all fun parameter => !parameter.type.nullable

/-- The null mark behind the input is lost. -/
theorem not_takesInput_hintedText : ∃ doc entries items headings registry hints fields r type d p s,
    Document.ofText (hintedText "String?") = .ok doc ∧
      Document.sections (hintedText "String?") = .ok entries ∧
      Document.Reads entries doc items headings registry hints ∧
      Transforms.Hinted hints (.text "io.x.V") [] fields "String?" ∧
      readTypeText registry "io.x" "String?" = .ok (r, true) ∧ r.typeAs true = .ok type ∧
      d ∈ doc.domains ∧ p ∈ d.properties ∧ p.declared.qualifiedName = some "io.x.V" ∧
      value (classify (.ofList doc.domains) none p) = .ok s ∧ ¬ TakesInput s type := by
  have htext : isHinted "String?" (takesNonNull "io.x.V") = true := by decide +kernel
  obtain ⟨doc, h, hy⟩ := exists_of_isHinted htext
  obtain ⟨d, hd, hy⟩ := List.any_eq_true.mp hy
  obtain ⟨p, hp, hy⟩ := List.any_eq_true.mp hy
  obtain ⟨hq, hy⟩ := (Bool.and_eq_true _ _).mp hy
  obtain ⟨s, hclassify, hy⟩ := exists_of_yields hy
  obtain ⟨f, hf, hy⟩ := exists_of_yields hy
  obtain ⟨entries, hs, he⟩ := bind_eq_ok.mp h
  obtain ⟨items, headings, registry, hints, hreads⟩ := Document.ofEntries_eq_ok.mp he
  obtain ⟨fields, hinted, -⟩ := hinted_of_isHinted htext (by decide) hs hreads
  obtain ⟨q, r, b, template, hkey, hr, -, -⟩ := hinted.exists_lookup hreads.readTransforms
  cases hkey
  have hb : b = true := nullable_of_ofText hr (by decide +kernel)
  have hpackage : Text.qualifier "io.x.V" = "io.x" := by decide +kernel
  rw [hb, hpackage] at hr
  have hcovers := (Registry.registers_of_ofDomains hreads.readRegistry).covers
  have hdenoted : r.Denoted _ := hcovers.denoted_readTypeText hr
  obtain ⟨type, htype⟩ := hdenoted.exists_typeAs true
  refine ⟨doc, entries, items, headings, registry, hints, fields, r, type, d, p, s, h, hs, hreads,
    hinted, hr, htype, hd, hp, beq_iff_eq.mp hq, hclassify, ?_⟩
  rintro ⟨-, f', parameter, hf', hparameters, rfl⟩
  cases hf.symm.trans hf'
  rw [hparameters] at hy
  have hnon : parameter.type.nullable = false := by simpa using hy
  obtain ⟨whole, -, hmarked⟩ := map_eq_ok.mp htype
  rw [← hmarked, TypeName.nullable_withNullable] at hnon
  cases hnon

end Schema

end FluentKotlin
