import FluentKotlin.Proofs.Document.Sections
import FluentKotlin.Proofs.Document.TypeGrammar
import FluentKotlin.Proofs.Together

/-! # Forms of a default

A default is a value alone, a mapping with the value, or a mapping with the value and the type text
of the property. A value that is no mapping makes the same document in each of the forms, unless it
is null: alone it is no default, and in a mapping it is one with a text of its own.
-/

namespace FluentKotlin

/-! ### Lists and entries that differ in one place -/

def OneApart {α : Type} (R : α → α → Prop) (as bs : List α) : Prop :=
  ∃ before a b after, as = before ++ a :: after ∧ bs = before ++ b :: after ∧ R a b

section OneApart

variable {α β : Type} {R : α → α → Prop} {as bs : List α}

theorem OneApart.cons (h : OneApart R as bs) (c : α) : OneApart R (c :: as) (c :: bs) := by
  obtain ⟨before, a, b, after, rfl, rfl, hr⟩ := h
  exact ⟨c :: before, a, b, after, rfl, rfl, hr⟩

theorem OneApart.head {a b : α} (h : R a b) (cs : List α) : OneApart R (a :: cs) (b :: cs) :=
  ⟨[], a, b, cs, rfl, rfl, h⟩

theorem OneApart.map_eq {f : α → β} (h : OneApart R as bs) (hf : ∀ a b, R a b → f a = f b) :
    as.map f = bs.map f := by
  obtain ⟨before, a, b, after, rfl, rfl, hr⟩ := h
  rw [List.map_append, List.map_append, List.map_cons, List.map_cons, hf a b hr]

theorem OneApart.ne (h : OneApart R as bs) (hr : ∀ a b, R a b → a ≠ b) : as ≠ bs := by
  obtain ⟨before, a, b, after, rfl, rfl, hab⟩ := h
  intro he
  exact hr a b hab (List.cons.inj (List.append_cancel_left he)).1

theorem OneApart.eq (h : OneApart R as bs) (hr : ∀ a b, R a b → a = b) : as = bs := by
  obtain ⟨before, a, b, after, rfl, rfl, hab⟩ := h
  rw [hr a b hab]

end OneApart

def AgreeBut (key : String) (es fs : Entries) : Prop :=
  ∀ other, other ≠ key → field? other es = field? other fs

theorem AgreeBut.fieldOrNull_eq {key other : String} {es fs : Entries} (h : AgreeBut key es fs)
    (ho : other ≠ key) : fieldOrNull other es = fieldOrNull other fs := by
  unfold fieldOrNull
  rw [h other ho]

theorem agreeBut_cons (key : String) (v : Value) (es : Entries) :
    AgreeBut key ((.text key, v) :: es) es :=
  fun _ ho => by rw [field?, if_neg (Ne.symm ho)]

/-! ### What a default is read as -/

namespace DefaultHint

variable {scope : TypeScope} {place typeText : String} {declared : TypeRef} {nullable : Bool}
  {v w : Value}

def IsWrapped (v w : Value) : Prop :=
  ∃ fields, w.opened = .mapping fields ∧ field? "value" fields = some v ∧
    field? "type" fields = none

def IsTyped (typeText : String) (v w : Value) : Prop :=
  ∃ fields t text, w.opened = .mapping fields ∧ field? "value" fields = some v ∧
    field? "type" fields = some t ∧ shown t = .ok text ∧
    TypeToken.scan text.toList = TypeToken.scan typeText.toList

def ofLiteral (declared : TypeRef) (v : Value) : Describing (Option DefaultHint) := do
  return some { literal := ← literalOf v, valueType := declared }

theorem ofValue_alone (hm : ∀ fields, v.opened ≠ .mapping fields) (hn : v.opened ≠ .scalar .null) :
    ofValue scope place declared v = ofLiteral declared v := by
  unfold ofValue
  split
  case h_1 h => exact absurd h hn
  case h_2 fields h => exact absurd h (hm fields)
  case h_3 => rfl

theorem ofValue_null (hn : v.opened = .scalar .null) :
    ofValue scope place declared v = .ok none := by
  unfold ofValue
  rw [hn]
  rfl

theorem ofValue_wrapped (h : IsWrapped v w) :
    ofValue scope place declared w = ofLiteral declared v := by
  obtain ⟨fields, hw, hv, ht⟩ := h
  unfold ofValue fieldOrNull
  rw [hw]
  dsimp only
  rw [hv, ht]
  rfl

/-- The text of a type denotes the same however its tokens are set apart. -/
theorem read_eq_ok_of_tokens {text : String}
    (hread : scope.read typeText = .ok (declared, nullable))
    (hs : TypeToken.scan text.toList = TypeToken.scan typeText.toList) :
    scope.read text = .ok (declared, nullable) := by
  unfold TypeScope.read at hread ⊢
  rw [readTypeText_eq_ok] at hread ⊢
  rwa [hs]

theorem ofValue_typed (hread : scope.read typeText = .ok (declared, nullable))
    (h : IsTyped typeText v w) : ofValue scope place declared w = ofLiteral declared v := by
  obtain ⟨fields, t, text, hw, hv, ht, htext, hs⟩ := h
  have htype : typeOf scope declared t = .ok declared := by
    unfold typeOf
    split
    · rfl
    · rw [htext, ok_bind, read_eq_ok_of_tokens hread hs]
      rfl
  unfold ofValue fieldOrNull
  rw [hw]
  dsimp only
  rw [hv, ht]
  dsimp only [Option.getD_some]
  rw [htype]
  rfl

theorem ofLiteral_null (hn : v.opened = .scalar .null) :
    ofLiteral declared v = .ok (some ⟨nothing, declared⟩) := by
  cases v with
  | scalar s =>
    cases hn
    rfl
  | named n v =>
    have hv : v = .scalar .null := by
      rw [Value.opened] at hn
      cases v with
      | scalar s => exact hn
      | again m =>
        rw [Value.fillIn] at hn
        split at hn
        · cases hn
        · cases hn
      | _ => simp [Value.fillIn] at hn
    rw [hv]
    rfl
  | _ => cases hn

end DefaultHint

/-! ### What a document is read as -/

abbrev DefaultRelation := TypeRef → Option DefaultHint → Option DefaultHint → Prop

def DomainProperty.SameBut (S : DefaultRelation) (p q : DomainProperty) : Prop :=
  ∃ default, q = { p with default } ∧ S p.declared p.default default

def DomainType.SameBut (S : DefaultRelation) (d e : DomainType) : Prop :=
  ∃ properties, e = { d with properties } ∧
    OneApart (DomainProperty.SameBut S) d.properties properties

def Document.SameBut (S : DefaultRelation) (doc other : Document) : Prop :=
  ∃ domains, other = { doc with domains } ∧ OneApart (DomainType.SameBut S) doc.domains domains

section SameBut

variable {S : DefaultRelation}

theorem Document.SameBut.eq {doc other : Document} (h : SameBut S doc other)
    (hs : ∀ r a b, S r a b → a = b) : doc = other := by
  obtain ⟨domains, rfl, hd⟩ := h
  have hdomains : doc.domains = domains := by
    refine hd.eq ?_
    rintro d _ ⟨properties, rfl, hp⟩
    have hproperties : d.properties = properties := by
      refine hp.eq ?_
      rintro p _ ⟨default, rfl, hdefault⟩
      rw [← hs _ _ _ hdefault]
    rw [← hproperties]
  rw [← hdomains]

theorem Document.SameBut.ne {doc other : Document} (h : SameBut S doc other)
    (hs : ∀ r a b, S r a b → a ≠ b) : doc ≠ other := by
  obtain ⟨domains, rfl, hd⟩ := h
  intro he
  refine hd.ne ?_ (congrArg Document.domains he)
  rintro d _ ⟨properties, rfl, hp⟩ he
  refine hp.ne ?_ (congrArg DomainType.properties he)
  rintro p _ ⟨default, rfl, hdefault⟩ he
  exact hs _ _ _ hdefault (congrArg DomainProperty.default he)

end SameBut

/-! ### A place for a default -/

/-- A document around the default of one of its properties. -/
structure DefaultPlace where
  sections : Entries
  earlier : List Value
  domain : Entries
  before : List Value
  property : Entries
  after : List Value
  later : List Value

namespace DefaultPlace

def IsProperty (c : DefaultPlace) (default v : Value) : Prop :=
  ∃ es, v.opened = .mapping es ∧ AgreeBut "default" es c.property ∧
    fieldOrNull "default" es = default

def IsDomain (c : DefaultPlace) (default v : Value) : Prop :=
  ∃ es p, v.opened = .mapping es ∧ AgreeBut "properties" es c.domain ∧
    (fieldOrNull "properties" es).opened = .list (c.before ++ p :: c.after) ∧
    c.IsProperty default p

def Holds (c : DefaultPlace) (default : Value) (entries : Entries) : Prop :=
  ∃ d, AgreeBut "domains" entries c.sections ∧
    (fieldOrNull "domains" entries).opened = .list (c.earlier ++ d :: c.later) ∧
    c.IsDomain default d

def propertyWith (c : DefaultPlace) (default : Value) : Value :=
  .mapping ((.text "default", default) :: c.property)

def domainWith (c : DefaultPlace) (default : Value) : Value :=
  .mapping ((.text "properties", .list (c.before ++ c.propertyWith default :: c.after)) :: c.domain)

def document (c : DefaultPlace) (default : Value) : Entries :=
  (.text "domains", .list (c.earlier ++ c.domainWith default :: c.later)) :: c.sections

theorem holds_document (c : DefaultPlace) (default : Value) :
    c.Holds default (c.document default) :=
  ⟨_, agreeBut_cons _ _ _, rfl, _, _, rfl, agreeBut_cons _ _ _, rfl, _, rfl,
    agreeBut_cons _ _ _, rfl⟩

end DefaultPlace

/-! ### Reading the document with one default or another -/

section Reading

variable {S : DefaultRelation} {c : DefaultPlace} {typeText : String} {v w a b : Value}

/-- The defaults are related as they are read in any property that has the type text. -/
def DefaultsTogether (S : DefaultRelation) (typeText : String) (v w : Value) : Prop :=
  ∀ scope place declared nullable, scope.read typeText = .ok (declared, nullable) →
    Together (S declared) (DefaultHint.ofValue scope place declared v)
      (DefaultHint.ofValue scope place declared w)

def EntriesTogether (S : DefaultRelation) (a b : Value) : Prop :=
  ∀ scope transforms place ordinal isLast, Together (DomainProperty.SameBut S)
    (DomainProperty.ofEntry scope transforms place ordinal isLast a)
    (DomainProperty.ofEntry scope transforms place ordinal isLast b)

theorem DefaultPlace.IsProperty.together (ha : c.IsProperty v a) (hb : c.IsProperty w b)
    (ht : textField "type" c.property = .ok typeText) (h : DefaultsTogether S typeText v w) :
    EntriesTogether S a b := by
  obtain ⟨es, hes, hagree, rfl⟩ := ha
  obtain ⟨fs, hfs, hagree', rfl⟩ := hb
  intro scope transforms place ordinal isLast
  have required (key : String) (hk : key ≠ "default") :
      requiredText place key es = requiredText place key c.property ∧
        requiredText place key fs = requiredText place key c.property := by
    unfold requiredText textField
    rw [hagree.fieldOrNull_eq hk, hagree'.fieldOrNull_eq hk]
    exact ⟨rfl, rfl⟩
  obtain ⟨hname, hname'⟩ := required "name" (by decide)
  obtain ⟨htype, htype'⟩ := required "type" (by decide)
  unfold DomainProperty.ofEntry
  rw [entryOf_eq_ok.mpr hes, entryOf_eq_ok.mpr hfs, ok_bind, ok_bind, hname, hname', htype, htype']
  refine .step fun name _ => .step fun text htext => ?_
  obtain rfl : text = typeText := Except.ok.inj ((requiredText_eq_ok.mp htext).1.symm.trans ht)
  refine .step fun (declared, nullable) hread => ?_
  refine (h scope place declared nullable hread).bind fun default other hs => ?_
  exact .ended ⟨other, rfl, hs⟩

theorem DomainProperty.ofEntries_together {scope : TypeScope} {transforms : Transforms}
    (h : EntriesTogether S a b) (before after : List Value) (place : String) (ordinal : Nat) :
    Together (OneApart (SameBut S))
      (ofEntries scope transforms place ordinal (before ++ a :: after))
      (ofEntries scope transforms place ordinal (before ++ b :: after)) := by
  induction before generalizing ordinal with
  | nil =>
    refine (h scope transforms _ ordinal after.isEmpty).bind fun p q hpq => ?_
    exact .step fun ps _ => .ended (.head hpq ps)
  | cons v vs ih =>
    have hlast : (vs ++ a :: after).isEmpty = (vs ++ b :: after).isEmpty := by
      cases vs <;> rfl
    rw [List.cons_append, List.cons_append, ofEntries, ofEntries, hlast]
    exact .step fun p _ => (ih (ordinal + 1)).bind fun ps qs hps => .ended (hps.cons p)

namespace Heading

variable {registry : Registry} {transforms : Transforms} {h k : Heading}

structure SameBut (S : DefaultRelation) (h k : Heading) : Prop where
  domain : h.domain = k.domain
  properties : OneApart (EntriesTogether S) h.properties k.properties

theorem complete_together (hs : SameBut S h k) :
    Together (DomainType.SameBut S) (h.complete registry transforms)
      (k.complete registry transforms) := by
  obtain ⟨before, a, b, after, ha, hb, hab⟩ := hs.properties
  unfold complete scope
  rw [← hs.domain, ha, hb]
  refine (DomainProperty.ofEntries_together hab before after _ 0).bind fun ps qs hps => ?_
  exact .ended ⟨qs, rfl, hps⟩

theorem completeAll_together {hs ks : List Heading} (h : OneApart (SameBut S) hs ks) :
    Together (OneApart (DomainType.SameBut S)) (completeAll registry transforms hs)
      (completeAll registry transforms ks) := by
  obtain ⟨before, h, k, after, rfl, rfl, hk⟩ := h
  induction before with
  | nil =>
    refine (complete_together hk).bind fun d e hde => ?_
    exact .step fun ds _ => .ended (.head hde ds)
  | cons h hs ih => exact .step fun d _ => ih.bind fun ds es hds => .ended (hds.cons d)

theorem ofEntry_together (ha : c.IsDomain v a) (hb : c.IsDomain w b)
    (ht : textField "type" c.property = .ok typeText) (h : DefaultsTogether S typeText v w)
    (index : Nat) : Together (SameBut S) (ofEntry index a) (ofEntry index b) := by
  obtain ⟨es, p, hes, hagree, hp, hproperty⟩ := ha
  obtain ⟨fs, q, hfs, hagree', hq, hproperty'⟩ := hb
  have fields (key : String) (hk : key ≠ "properties") : fieldOrNull key es = fieldOrNull key fs :=
    (hagree.fieldOrNull_eq hk).trans (hagree'.fieldOrNull_eq hk).symm
  unfold ofEntry requiredText textField flagField itemsOf
  dsimp only
  rw [entryOf_eq_ok.mpr hes, entryOf_eq_ok.mpr hfs, ok_bind, ok_bind, hp, hq,
    fields "name" (by decide), fields "mapGroup" (by decide), fields "root" (by decide),
    fields "listGroup" (by decide)]
  refine .step fun name _ => .step fun mapGroup _ => ?_
  refine .step fun isRoot _ => .step fun listGroup _ => ?_
  exact .ended ⟨rfl, _, p, q, _, rfl, rfl, hproperty.together hproperty' ht h⟩

theorem ofEntries_together (hab : ∀ index, Together (SameBut S) (ofEntry index a) (ofEntry index b))
    (before after : List Value) (index : Nat) :
    Together (OneApart (SameBut S)) (ofEntries index (before ++ a :: after))
      (ofEntries index (before ++ b :: after)) := by
  induction before generalizing index with
  | nil =>
    refine (hab index).bind fun h k hk => ?_
    exact .step fun hs _ => .ended (.head hk hs)
  | cons v vs ih => exact .step fun h _ => (ih (index + 1)).bind fun hs ks hk => .ended (hk.cons h)

end Heading

namespace Document

variable {es fs gs : Entries}

theorem ofEntries_together (ha : c.Holds v es) (hb : c.Holds w fs)
    (ht : textField "type" c.property = .ok typeText) (h : DefaultsTogether S typeText v w) :
    Together (SameBut S) (ofEntries es) (ofEntries fs) := by
  obtain ⟨d, hagree, hd, hdomain⟩ := ha
  obtain ⟨e, hagree', he, hdomain'⟩ := hb
  have fields (key : String) (hk : key ≠ "domains") : fieldOrNull key es = fieldOrNull key fs :=
    (hagree.fieldOrNull_eq hk).trans (hagree'.fieldOrNull_eq hk).symm
  unfold ofEntries mappingField itemsOf
  rw [hd, he, fields "options" (by decide), fields "transforms" (by decide)]
  refine .step fun options _ => ?_
  refine (Heading.ofEntries_together (Heading.ofEntry_together hdomain hdomain' ht h) _ _ 0).bind
    fun hs ks hk => ?_
  rw [hk.map_eq fun _ _ hk => hk.domain]
  refine .step fun registry _ => .step fun hints _ => .step fun transforms _ => ?_
  exact (Heading.completeAll_together hk).bind fun ds es hds => .ended ⟨es, rfl, hds⟩

/-- A default that is read as the literal of the value makes the document of the value alone, unless
that is null, which alone is none. -/
theorem ofEntries_eq_iff_of_literal (hm : ∀ fields, v.opened ≠ .mapping fields)
    (ht : textField "type" c.property = .ok typeText)
    (hw : ∀ scope place declared nullable, scope.read typeText = .ok (declared, nullable) →
      DefaultHint.ofValue scope place declared w = DefaultHint.ofLiteral declared v)
    (ha : c.Holds v es) (hb : c.Holds w fs) :
    ofEntries es = ofEntries fs ↔ (v.opened = .scalar .null → ∃ e, ofEntries es = .error e) := by
  by_cases hn : v.opened = .scalar .null
  · have hnull : DefaultsTogether (fun declared a b => a = none ∧ b = some ⟨nothing, declared⟩)
        typeText v w := by
      intro scope place declared nullable hread
      rw [DefaultHint.ofValue_null hn, hw scope place declared nullable hread,
        DefaultHint.ofLiteral_null hn]
      exact .ended ⟨rfl, rfl⟩
    rw [forall_prop_of_true hn]
    refine (ofEntries_together ha hb ht hnull).eq_iff_error fun _ _ hdoc => hdoc.ne ?_
    rintro declared _ _ ⟨rfl, rfl⟩
    exact nofun
  · refine iff_of_true ?_ fun h => absurd h hn
    have hsame : DefaultsTogether (fun _ => Eq) typeText v w := by
      intro scope place declared nullable hread
      rw [DefaultHint.ofValue_alone hm hn, hw scope place declared nullable hread]
      exact .refl (fun _ => rfl) _
    exact (ofEntries_together ha hb ht hsame).eq fun _ _ hdoc => hdoc.eq fun _ _ _ => id

/-- The value alone, in a mapping, and in a mapping with the type text of the property make one
document, whatever is no mapping. Only null is read apart, unless the document is refused anyway. -/
theorem ofEntries_defaultForms_iff {wrapped typed : Value}
    (hm : ∀ fields, v.opened ≠ .mapping fields)
    (ht : textField "type" c.property = .ok typeText) (hw : DefaultHint.IsWrapped v wrapped)
    (hty : DefaultHint.IsTyped typeText v typed) (ha : c.Holds v es) (hb : c.Holds wrapped fs)
    (hc : c.Holds typed gs) :
    (ofEntries es = ofEntries fs ∧ ofEntries es = ofEntries gs) ↔
      (v.opened = .scalar .null → ∃ e, ofEntries es = .error e) := by
  rw [ofEntries_eq_iff_of_literal hm ht (fun _ _ _ _ _ => DefaultHint.ofValue_wrapped hw) ha hb,
    ofEntries_eq_iff_of_literal hm ht
      (fun _ _ _ _ hread => DefaultHint.ofValue_typed hread hty) ha hc]
  exact and_self_iff

end Document

end Reading

/-! ### One property -/

namespace Document

def onlyProperty (type : String) : DefaultPlace where
  sections := []
  earlier := []
  domain := [(.text "name", .text "io.x.A")]
  before := []
  property := [(.text "name", .text "a"), (.text "type", .text type)]
  after := []
  later := []

def wrapped (v : Value) : Value := .mapping [(.text "value", v)]

def typed (type : String) (v : Value) : Value :=
  .mapping [(.text "value", v), (.text "type", .text type)]

def literals (doc : Document) : List (Option String) :=
  doc.domains.flatMap fun d => d.properties.map fun p => p.default.map (·.literal)

/-- The blanks in the text of the type do not count. -/
theorem ofEntries_defaultForms_iff_list : ∃ doc,
    (∀ w ∈ [.list [.scalar (.int 1), .null], wrapped (.list [.scalar (.int 1), .null]),
      typed " Map<String,Int?>? " (.list [.scalar (.int 1), .null])],
      ofEntries ((onlyProperty "Map<String, Int?>?").document w) = .ok doc) ∧
    doc.literals = [some "[1, None]"] := by
  have hy : yields (ofEntries ((onlyProperty "Map<String, Int?>?").document
      (.list [.scalar (.int 1), .null]))) (fun doc => doc.literals == [some "[1, None]"]) =
      true := by decide +kernel
  obtain ⟨doc, hdoc, hy⟩ := exists_of_yields hy
  have ht : yields (textField "type" (onlyProperty "Map<String, Int?>?").property)
      (· == "Map<String, Int?>?") = true := by decide +kernel
  obtain ⟨_, htype, ht⟩ := exists_of_yields ht
  obtain rfl := beq_iff_eq.mp ht
  have htokens : TypeToken.scan " Map<String,Int?>? ".toList =
      TypeToken.scan "Map<String, Int?>?".toList := by decide +kernel
  obtain ⟨hwrapped, htyped⟩ := (ofEntries_defaultForms_iff
    (v := .list [.scalar (.int 1), .null]) nofun htype
    ⟨_, rfl, rfl, rfl⟩ ⟨_, _, _, rfl, rfl, rfl, rfl, htokens⟩ (DefaultPlace.holds_document _ _)
    (DefaultPlace.holds_document _ (wrapped _))
    (DefaultPlace.holds_document _ (typed " Map<String,Int?>? " _))).mpr nofun
  refine ⟨doc, ?_, beq_iff_eq.mp hy⟩
  simp only [List.forall_mem_cons]
  exact ⟨hdoc, hwrapped.symm.trans hdoc, htyped.symm.trans hdoc, List.forall_mem_nil _⟩

/-- Null alone is no default, and in a mapping it is one. -/
theorem ofEntries_ne_wrapped_null : ∃ doc other,
    ofEntries ((onlyProperty "String").document .null) = .ok doc ∧ doc.literals = [none] ∧
      ofEntries ((onlyProperty "String").document (wrapped .null)) = .ok other ∧
      other.literals = [some "None"] := by
  have hy : yields (ofEntries ((onlyProperty "String").document .null))
      (·.literals == [none]) = true := by decide +kernel
  have hw : yields (ofEntries ((onlyProperty "String").document (wrapped .null)))
      (·.literals == [some "None"]) = true := by decide +kernel
  obtain ⟨doc, hdoc, hy⟩ := exists_of_yields hy
  obtain ⟨other, hother, hw⟩ := exists_of_yields hw
  exact ⟨doc, other, hdoc, beq_iff_eq.mp hy, hother, beq_iff_eq.mp hw⟩

end Document

end FluentKotlin
