import FluentKotlin.Proofs.Document.Entries
import FluentKotlin.Proofs.Kotlin.Drafts
import FluentKotlin.Proofs.Schema.Forms
import FluentKotlin.Proofs.Schema.Total

/-! # The type in which a property is stored

A builder stores a property in its declared type made nullable. What a container collects are values
of a class, so the type of a collected value is erased to its class: it has neither the arguments
nor the null mark that the declaration gives it.
-/

namespace FluentKotlin

namespace TypeName

/-- The class of a type, without type arguments and without a null mark. -/
def erased : TypeName → TypeName
  | named c => named c.nonNull
  | applied raw _ _ => named raw.nonNull
  | t => t

def withErasedLast : TypeName → TypeName
  | applied raw arguments nullable =>
    applied raw (arguments.dropLast ++ (arguments.getLast?.map erased).toList) nullable
  | t => t

variable {raw : ClassName} {ts : List TypeName} {t : TypeName} {b : Bool}

theorem withErasedLast_concat :
    (applied raw (ts ++ [t]) b).withErasedLast = applied raw (ts ++ [t.erased]) b := by
  simp [withErasedLast]

theorem withErasedLast_concat_eq_iff :
    (applied raw (ts ++ [t]) b).withErasedLast = applied raw (ts ++ [t]) b ↔ t.erased = t := by
  simp [withErasedLast_concat]

end TypeName

def Form.collects : Form → Bool
  | group _ _ _ | mapGroup _ _ _ _ => true
  | _ => false

namespace TypeRef

variable {ds : List DomainType} {r : TypeRef} {c : ClassName} {t : TypeName} {rs : List TypeRef}
  {ts : List TypeName}

/-- Where a reference has the kind of a container or names its class, the type is that container's:
which of the two it is does not matter. -/
theorem bareType_of_container {kind : TypeKind} (hts : argumentTypes r.arguments = .ok ts)
    (hne : ts ≠ []) (hk : isContainer r.kind r.arguments.length = (r.kind == kind))
    (hr : r.kind = kind ∨ r.className = .ok (containerClass kind)) :
    r.bareType = .ok (.apply (containerClass kind) ts) := by
  rw [bareType_eq, hts, hk]
  cases h : r.kind == kind with
  | true =>
    rw [if_pos rfl, beq_iff_eq.mp h]
    rfl
  | false =>
    rw [if_neg Bool.false_ne_true, hr.resolve_left (beq_eq_false_iff_ne.mp h), ok_bind, ok_bind]
    unfold applyAll
    rw [if_neg (by simpa using hne)]
    rfl

theorem bareType_of_isMap {key value : TypeRef} {keyType valueType : TypeName} (hm : r.IsMap)
    (ha : r.arguments = [key, value]) (hk : key.typeName = .ok keyType)
    (hv : value.typeName = .ok valueType) : r.bareType = .ok (.mapOf keyType valueType) := by
  have hts : argumentTypes r.arguments = .ok [keyType, valueType] := by
    rw [ha]
    exact argumentTypes_eq_ok.mpr (.cons hk (.cons hv .nil))
  have hr : r.kind = .map ∨ r.className = .ok (containerClass .map) := by
    refine hm.imp_right fun hn => ?_
    rw [className_of_qualifiedName hn (by decide)]
    decide +kernel
  exact bareType_of_container hts (List.cons_ne_nil _ _) (by simp [isContainer, ha]) hr

theorem bareType_of_isList {element : TypeRef} {elementType : TypeName} (hl : r.IsList)
    (ha : r.arguments = [element]) (he : element.typeName = .ok elementType) :
    r.bareType = .ok (.listOf elementType) := by
  have hts : argumentTypes r.arguments = .ok [elementType] := by
    rw [ha]
    exact argumentTypes_eq_ok.mpr (.cons he .nil)
  have hr : r.kind = .collection ∨ r.className = .ok (containerClass .collection) := by
    refine hl.imp_right fun hn => ?_
    rw [className_of_qualifiedName hn (by decide)]
    decide +kernel
  exact bareType_of_container hts (List.cons_ne_nil _ _) (by simp [isContainer, ha]) hr

theorem bareType_boolean : TypeRef.boolean.bareType = .ok .boolean := by
  have hc : TypeRef.boolean.className = .ok (kotlinClass "Boolean") := by decide +kernel
  rw [bareType_eq, hc]
  rfl

theorem Denoted.bareType_of_boolean (h : r.Denoted ds) (hk : r.kind = .boolean) :
    r.bareType = .ok .boolean := by
  induction h with
  | scalar h =>
    unfold scalarRef? at h
    split_ifs at h <;> cases h
    · exact bareType_boolean
    all_goals cases hk
  | collection => cases hk
  | map => cases hk
  | nominal => cases hk
  | generated => cases hk
  | marked _ _ ih =>
    rw [bareType_withNullable]
    exact ih hk

theorem erased_of_nominal (hk : r.kind = .nominal) (hc : r.className = .ok c)
    (ht : r.typeName = .ok t) :
    t.erased = .named c ∧ (t.erased = t ↔ r.nullable = false ∧ r.arguments = []) := by
  obtain ⟨bare, hb, rfl⟩ := typeName_eq_ok.mp ht
  have hn : c.nonNull = c := by
    obtain ⟨_, hs⟩ := ClassName.exists_shared hc
    rw [← ClassName.withNullable_nullable c, hs.nonNull]
    rfl
  rw [bareType_eq, if_neg (by simp [isContainer, hk]), hc, ok_bind] at hb
  obtain ⟨ts, hts, hb⟩ := bind_eq_ok.mp hb
  cases hb
  have hl := (argumentTypes_eq_ok.mp hts).length_eq
  cases ts with
  | nil =>
    have ha : r.arguments = [] := List.eq_nil_of_length_eq_zero hl
    refine ⟨congrArg TypeName.named hn, fun h => ⟨(congrArg TypeName.nullable h).symm, ha⟩, ?_⟩
    rintro ⟨h, _⟩
    rw [h]
    rfl
  | cons u us =>
    refine ⟨congrArg TypeName.named hn, nofun, ?_⟩
    rintro ⟨_, ha⟩
    rw [ha] at hl
    cases hl

end TypeRef

namespace Schema

open Reporting

variable {ds : List DomainType} {known : KnownDomains} {p : DomainProperty} {form : Form}

/-- The stored type of a form is the declared one, where a collected value counts by its class. -/
structure Stores (p : DomainProperty) (form : Form) (declared : TypeName) : Prop where
  type : (form.type p.nullable).withNullable true =
    if form.collects then declared.withErasedLast else declared
  keeps : form.collects = true → (declared.withErasedLast = declared ↔
    ∀ r, p.declared.arguments.getLast? = some r → r.nullable = false ∧ r.arguments = [])

theorem Stores.of_type {declared : TypeName} (hc : form.collects = false)
    (h : (form.type p.nullable).withNullable true = declared) : Stores p form declared where
  type := by
    rw [hc]
    exact h
  keeps h := by
    rw [hc] at h
    cases h

theorem Stores.of_last {raw : ClassName} {t : TypeName} {c : ClassName} (ts : List TypeName)
    {r : TypeRef} (rs : List TypeRef) (hc : form.collects = true)
    (h : (form.type p.nullable).withNullable true = .applied raw (ts ++ [.named c]) true)
    (ha : p.declared.arguments = rs ++ [r]) (hk : r.kind = .nominal) (hr : r.className = .ok c)
    (ht : r.typeName = .ok t) : Stores p form (.applied raw (ts ++ [t]) true) := by
  obtain ⟨herased, hkeeps⟩ := TypeRef.erased_of_nominal hk hr ht
  constructor
  · rw [h, hc, if_pos rfl, TypeName.withErasedLast_concat, herased]
  · intro _
    rw [TypeName.withErasedLast_concat_eq_iff, hkeeps, ha]
    simp

/-- Every form stores the declared type of its property. -/
theorem FormOf.exists_declared (h : FormOf known p form) (hp : p.Denoted ds) :
    ∃ declared, p.declared.typeAs true = .ok declared ∧ Stores p form declared := by
  have whole : ∀ {t}, p.typeName = .ok t → form.collects = false → form.type p.nullable = t →
      ∃ declared, p.declared.typeAs true = .ok declared ∧ Stores p form declared := by
    rintro t ht hc rfl
    exact ⟨_, TypeRef.typeAs_of_typeAs ht true, .of_type hc rfl⟩
  have argument : ∀ {r : TypeRef}, r ∈ p.declared.arguments → ∃ t, r.typeName = .ok t := by
    intro r hr
    exact (hp.declared.arguments r hr).exists_typeName
  cases h with
  | transform _ _ ht _ => exact whole ht rfl rfl
  | withoutInput _ _ ht => exact whole ht rfl rfl
  | builder _ _ _ ht => exact whole ht rfl rfl
  | boolean _ hk =>
    have hb := hp.declared.bareType_of_boolean hk
    exact ⟨_, TypeRef.typeAs_of_bareType hb true, .of_type rfl rfl⟩
  | scalar _ _ ht => exact whole ht rfl rfl
  | @mapGroup key value keyType c _ hm ha hg hk hc =>
    obtain ⟨t, ht⟩ := argument (r := value) (by simp [ha])
    have hn : value.kind = .nominal := (TypeRef.isMapGroupValue_iff.mp hg).1
    refine ⟨_, TypeRef.typeAs_of_bareType (TypeRef.bareType_of_isMap hm ha hk ht) true, ?_⟩
    exact .of_last [keyType] [key] rfl rfl ha hn hc ht
  | map _ hm ha _ hk hv =>
    have hb := TypeRef.bareType_of_isMap hm ha hk hv
    exact ⟨_, TypeRef.typeAs_of_bareType hb true, .of_type rfl rfl⟩
  | bareMap _ _ _ ht => exact whole ht rfl rfl
  | @group element c _ _ hl ha hg hc =>
    obtain ⟨t, ht⟩ := argument (r := element) (by simp [ha])
    have hn : element.kind = .nominal := (TypeRef.isGroupElement_iff.mp hg).1
    refine ⟨_, TypeRef.typeAs_of_bareType (TypeRef.bareType_of_isList hl ha ht) true, ?_⟩
    exact .of_last [] [] rfl rfl ha hn hc ht
  | collection _ _ hl ha _ he =>
    have hb := TypeRef.bareType_of_isList hl ha he
    exact ⟨_, TypeRef.typeAs_of_bareType hb true, .of_type rfl rfl⟩
  | bareList _ _ _ _ ht => exact whole ht rfl rfl
  | other _ _ _ ht => exact whole ht rfl rfl

theorem storedProperty_of_name {s : Schema} (h : s.name ≠ "") :
    ∃ stored, s.storedProperty = .ok stored ∧ stored.type = s.type.withNullable true :=
  ⟨_, PropertyDraft.build_of_name rfl h rfl, rfl⟩

/-- Every property of an accepted document gets a schema and is stored in its declared type made
nullable, but for the type of what a container collects: there the class alone is stored. The two
types are one exactly where the declaration says no more than the class. -/
theorem storedType_of_classify {text : String} {doc : Document} {d : DomainType}
    (h : Document.ofText text = .ok doc) (hd : d ∈ doc.domains) (hp : p ∈ d.properties)
    (known : KnownDomains) (label : Option String) :
    ∃ s stored declared, value (classify known label p) = .ok s ∧ s.storedProperty = .ok stored ∧
      p.declared.typeAs true = .ok declared ∧
      stored.type = (if s.form.collects then declared.withErasedLast else declared) ∧
      (stored.type = declared ↔ (s.form.collects = true →
        ∀ r, p.declared.arguments.getLast? = some r → r.nullable = false ∧ r.arguments = [])) := by
  have hdenoted := (Document.closed_of_ofText h).denoted d hd p hp
  have hsettles : Settles (classify known label p) := settles_classify hdenoted
  obtain ⟨s, hs⟩ := hsettles.returns
  obtain ⟨form, rfl, hform⟩ := follows_classify hs
  obtain ⟨declared, hdeclared, htype, hkeeps⟩ := hform.exists_declared hdenoted
  obtain ⟨stored, hstored, hst⟩ := storedProperty_of_name (s := make p form)
    (Document.name_ne_empty_of_ofText h d hd p hp)
  have hst : stored.type = if form.collects then declared.withErasedLast else declared :=
    hst.trans htype
  refine ⟨_, stored, declared, hs, hstored, hdeclared, hst, ?_⟩
  show _ ↔ (form.collects = true → _)
  rw [hst]
  cases hc : form.collects with
  | false => simp
  | true => simpa using hkeeps hc

def collectingText : String :=
  "domains:\n- name: A\n  listGroup: 1\n  properties:\n"
    ++ "  - name: b\n    type: List<A>\n  - name: c\n    type: List<A?>"

/-- The first property says no more than its class, and the second is stored without its mark. -/
def losesMark (doc : Document) (p q : DomainProperty) : Bool :=
  (p.declared.arguments.getLast?.all fun r => !r.nullable && r.arguments.isEmpty) &&
    yields (value (classify (.ofList doc.domains) none p)) (·.form.collects) &&
    yields (value (classify (.ofList doc.domains) none q)) fun s =>
      yields s.storedProperty fun stored => yields (q.declared.typeAs true) fun declared =>
        stored.type.written == "kotlin.collections.List<A>?" &&
          declared.written == "kotlin.collections.List<A?>?"

theorem exists_losesMark : ∃ doc d p q, Document.ofText collectingText = .ok doc ∧
    d ∈ doc.domains ∧ p ∈ d.properties ∧ q ∈ d.properties ∧ losesMark doc p q = true :=
  Document.exists_properties (by decide +kernel)

theorem storedType_of_classify_unmarked :
    ∃ doc d p, Document.ofText collectingText = .ok doc ∧ d ∈ doc.domains ∧ p ∈ d.properties ∧
      ∃ s stored declared, value (classify (.ofList doc.domains) none p) = .ok s ∧
        s.form.collects = true ∧ s.storedProperty = .ok stored ∧
        p.declared.typeAs true = .ok declared ∧ stored.type = declared := by
  obtain ⟨doc, d, p, _, h, hd, hp, _, hy⟩ := exists_losesMark
  simp only [losesMark, Bool.and_eq_true] at hy
  obtain ⟨⟨hl, hy⟩, _⟩ := hy
  obtain ⟨s, hs, hc⟩ := exists_of_yields hy
  obtain ⟨s', stored, declared, hs', hstored, hdeclared, _, hiff⟩ :=
    storedType_of_classify h hd hp (.ofList doc.domains) none
  obtain rfl : s' = s := Except.ok.inj (hs'.symm.trans hs)
  refine ⟨doc, d, p, h, hd, hp, s', stored, declared, hs, hc, hstored, hdeclared, hiff.mpr ?_⟩
  intro _ r hr
  simpa [hr] using hl

/-- The null mark of a collected value is not stored. -/
theorem storedType_of_classify_marked :
    ∃ doc d p s stored declared, Document.ofText collectingText = .ok doc ∧ d ∈ doc.domains ∧
      p ∈ d.properties ∧ value (classify (.ofList doc.domains) none p) = .ok s ∧
      s.storedProperty = .ok stored ∧ p.declared.typeAs true = .ok declared ∧
      stored.type.written = "kotlin.collections.List<A>?" ∧
      declared.written = "kotlin.collections.List<A?>?" ∧ stored.type ≠ declared := by
  obtain ⟨doc, d, _, q, h, hd, _, hq, hy⟩ := exists_losesMark
  simp only [losesMark, Bool.and_eq_true] at hy
  obtain ⟨_, hy⟩ := hy
  obtain ⟨s, hs, hy⟩ := exists_of_yields hy
  obtain ⟨stored, hstored, hy⟩ := exists_of_yields hy
  obtain ⟨declared, hdeclared, hy⟩ := exists_of_yields hy
  simp only [Bool.and_eq_true, beq_iff_eq] at hy
  obtain ⟨hw, hv⟩ := hy
  refine ⟨doc, d, q, s, stored, declared, h, hd, hq, hs, hstored, hdeclared, hw, hv, ?_⟩
  intro he
  rw [he, hv] at hw
  revert hw
  decide

end Schema

end FluentKotlin
