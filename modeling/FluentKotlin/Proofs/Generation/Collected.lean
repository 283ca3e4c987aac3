import FluentKotlin.Proofs.Domain.Naming
import FluentKotlin.Proofs.Generation.Shape
import FluentKotlin.Proofs.Schema.StoredType

/-! # What containers hand out

The accessor of a collected property instantiates a container and stores what its function `items`
hands out. A container of values hands out the type that is stored. A container of entries is
instantiated at the key type without its null mark, and so it hands out the stored type only where
the key had none.
-/

namespace FluentKotlin

namespace TypeName

abbrev Assignment := List (String × TypeName)

mutual

/-- The type with types for its variables. A marked variable stands for the nullable type. -/
def instantiate (σ : Assignment) : TypeName → TypeName
  | named c => named c
  | applied raw arguments nullable => applied raw (instantiateAll σ arguments) nullable
  | typeVariable name nullable =>
    match σ.lookup name with
    | some t => if nullable then t.withNullable true else t
    | none => typeVariable name nullable
  | lambda receiver parameters returns nullable =>
    lambda (instantiateOption σ receiver) (instantiateAll σ parameters)
      (instantiateOption σ returns) nullable

def instantiateAll (σ : Assignment) : List TypeName → List TypeName
  | [] => []
  | t :: ts => instantiate σ t :: instantiateAll σ ts

def instantiateOption (σ : Assignment) : Option TypeName → Option TypeName
  | none => none
  | some t => some (instantiate σ t)

end

def arguments : TypeName → List TypeName
  | applied _ arguments _ => arguments
  | _ => []

theorem instantiate_listOf (σ : Assignment) (c : ClassName) :
    (listOf (.named c)).instantiate σ = listOf (.named c) := by
  simp [listOf, apply, instantiate, instantiateAll]

theorem instantiate_mapOf_variable {v : TypeVariable} (hv : v.nullable = false) (key : TypeName)
    (c : ClassName) :
    (mapOf v.asType (.named c)).instantiate [(v.name, key)] = mapOf key (.named c) := by
  simp [mapOf, apply, TypeVariable.asType, instantiate, instantiateAll, hv]

theorem mapOf_nonNull_eq_iff {key : TypeName} {c : ClassName} :
    mapOf key.nonNull (.named c) = mapOf key (.named c) ↔ key.nullable = false := by
  constructor
  · intro h
    injection h with _ h _
    injection h with h _
    rw [← h]
    exact nullable_withNullable false key
  · intro h
    rw [nonNull, ← h, withNullable_nullable]

end TypeName

namespace TypeDecl

def assign (t : TypeDecl) (instanceType : TypeName) : TypeName.Assignment :=
  (t.typeVariables.map (·.name)).zip instanceType.arguments

/-- What the function `items` of an instance hands out. -/
def itemsType? (t : TypeDecl) (instanceType : TypeName) : Option TypeName :=
  ((t.function? "items").bind (·.returns)).map (·.instantiate (t.assign instanceType))

end TypeDecl

open Reporting Generating

namespace GroupKind

variable {k : GroupKind} {n : Naming}

theorem exists_keyParameters (k : GroupKind) : ∃ keys, k.keyParameters = .ok keys := by
  cases k with
  | list => exact ⟨_, rfl⟩
  | map =>
    unfold keyParameters
    rw [ParameterDraft.build_of_name rfl (by decide) rfl]
    exact ⟨_, rfl⟩

theorem exists_addFunction (k : GroupKind) (h : n.functionName ≠ "") :
    ∃ f, k.addFunction n = .ok f := by
  obtain ⟨keys, hk⟩ := k.exists_keyParameters
  unfold addFunction
  rw [hk, ok_bind, ParameterDraft.build_of_name rfl (by decide) rfl, ok_bind,
    FunctionDraft.build_of_name rfl h]
  exact ⟨_, rfl⟩

/-- The container of a builder can be made, and its function `items` hands out what is built. -/
theorem exists_container (k : GroupKind) (h : n.functionName ≠ "") (marker : Option ClassName) :
    ∃ t, k.container n marker = .ok t ∧ t.typeVariables = k.typeVariables ∧
      ∃ f, t.function? "items" = some f ∧ f.returns = some (k.builtType n.domainClass) := by
  obtain ⟨add, ha⟩ := k.exists_addFunction h
  have hname : k.containerName ≠ "" := by
    cases k <;> decide
  unfold container itemsProperty itemsFunction
  rw [PropertyDraft.build_of_name rfl (by decide) rfl, ok_bind,
    FunctionDraft.build_of_name rfl (by decide), ok_bind, ha, ok_bind,
    TypeDraft.build_of_name rfl hname]
  exact ⟨_, rfl, rfl, _, rfl, rfl⟩

theorem container?_of_offered {marker : Option ClassName} {t : TypeDecl}
    (h : k.container n marker = .ok t) (ho : k.isOffered n.domain = true) :
    value (k.container? n marker) = .ok (some t) := by
  unfold container?
  simp only [value_bind, value_debug, ok_bind]
  rw [if_pos ho]
  simp only [value_bind, value_debug, ok_bind, value_pure, value_ofDecl_eq_ok.mpr h]

end GroupKind

/-- The kind of container that collects the values of the property, and the type at which the
accessor makes one. -/
def Form.container? : Form → Option (GroupKind × TypeName)
  | group _ elementBuilder _ => some (.list, .named (groupClass elementBuilder))
  | mapGroup key _ valueBuilder _ => some (.map, mapGroupType key valueBuilder)
  | _ => none

namespace Schema

variable {s : Schema} {k : GroupKind} {container : TypeName}

theorem exists_accessor_of_container? (h : s.form.container? = some (k, container))
    (hn : s.name ≠ "") : ∃ f, s.accessor = .ok f ∧
      f.statements =
        [⟨"this.%N = %T().apply(block).items()", [.text s.name, .type container]⟩] := by
  have accessor_of : ∀ doc, ∃ f, containerAccessor s.name container doc = .ok f ∧ f.statements =
      [⟨"this.%N = %T().apply(block).items()", [.text s.name, .type container]⟩] := by
    intro doc
    unfold containerAccessor blockParameter accessorOf
    rw [ParameterDraft.build_of_name rfl (by decide) rfl, ok_bind,
      FunctionDraft.build_of_name rfl hn]
    exact ⟨_, rfl, rfl⟩
  unfold accessor
  cases hf : s.form with
  | group c b doc =>
    rw [hf] at h
    cases h
    exact accessor_of doc
  | mapGroup key c b doc =>
    rw [hf] at h
    cases h
    exact accessor_of doc
  | _ =>
    rw [hf] at h
    cases h

variable {ds : List DomainType} {known : KnownDomains} {p : DomainProperty} {form : Form}

/-- What the domain that is collected offers, and when what its container hands out is stored. -/
structure CollectsAs (p : DomainProperty) (form : Form) (k : GroupKind) (container : TypeName)
    (e : DomainType) : Prop where
  value : ∃ r, p.declared.arguments.getLast? = some r ∧ r.StandsFor e
  offered : k.isOffered e = true
  stored : ∀ c, e.className = .ok c →
    ((k.builtType c).instantiate ((k.typeVariables.map (·.name)).zip container.arguments) =
        (form.type p.nullable).nonNull ↔
      (k = .map → ∀ key ∈ p.declared.arguments.dropLast, key.nullable = false))

theorem FormOf.collectsAs (h : FormOf known p form) (hk : form.container? = some (k, container))
    (hp : p.Denoted ds) (hnamed : ∀ e ∈ ds, ClassName.IsName e.qualifiedName) :
    ∃ e ∈ ds, CollectsAs p form k container e := by
  have exists_domain : ∀ {r c}, r ∈ p.declared.arguments → r.generable = true →
      r.className = .ok c → ∃ e ∈ ds, r.StandsFor e ∧ e.className = .ok c := by
    intro r c hr hg hc
    obtain ⟨e, he, hs⟩ := (hp.declared.arguments r hr).exists_domain hg
    exact ⟨e, he, hs, (hs.className (hnamed e he)).symm.trans hc⟩
  cases h with
  | @group element c _ _ _ ha hg hc =>
    cases hk
    obtain ⟨_, hgen, hgroup⟩ := TypeRef.isGroupElement_iff.mp hg
    obtain ⟨e, he, hs, hce⟩ := exists_domain (r := element) (by simp [ha]) hgen hc
    refine ⟨e, he, ⟨⟨element, by simp [ha], hs⟩, ?_, ?_⟩⟩
    · rw [GroupKind.isOffered, ← hs.listGroup]
      exact hgroup
    · intro c' hc'
      obtain rfl : c' = c := Except.ok.inj (hc'.symm.trans hce)
      refine iff_of_true (TypeName.instantiate_listOf _ c') ?_
      intro hmap
      cases hmap
  | @mapGroup key value keyType c _ _ ha hg hkey hc =>
    cases hk
    obtain ⟨_, hgen, hactive⟩ := TypeRef.isMapGroupValue_iff.mp hg
    obtain ⟨e, he, hs, hce⟩ := exists_domain (r := value) (by simp [ha]) hgen hc
    refine ⟨e, he, ⟨⟨value, by simp [ha], hs⟩, ?_, ?_⟩⟩
    · rw [GroupKind.isOffered, ← hs.mapGroup]
      exact hactive
    · intro c' hc'
      obtain rfl : c' = c := Except.ok.inj (hc'.symm.trans hce)
      obtain ⟨bare, _, rfl⟩ := TypeRef.typeName_eq_ok.mp hkey
      have hi : (GroupKind.map.builtType c').instantiate [(groupKey.name,
          (bare.withNullable key.nullable).nonNull)] =
          .mapOf (bare.withNullable key.nullable).nonNull (.named c') :=
        TypeName.instantiate_mapOf_variable rfl _ c'
      have hd : p.declared.arguments.dropLast = [key] := by
        rw [ha]
        rfl
      rw [hd, List.forall_mem_singleton, forall_prop_of_true rfl]
      refine Iff.trans (Eq.congr_left hi) ?_
      exact TypeName.mapOf_nonNull_eq_iff.trans (by rw [TypeName.nullable_withNullable])
  | _ => cases hk

/-- The container that a collected property needs is there in the builder of its domain. Where the
accessor instantiates it, the container hands out the stored type exactly where it is one of values,
or where the declaration does not mark the key type as nullable. -/
theorem itemsType_eq_stored_iff {text : String} {doc : Document} {d : DomainType}
    {label : Option String} (h : Document.ofText text = .ok doc) (hd : d ∈ doc.domains)
    (hp : p ∈ d.properties) (hs : value (classify known label p) = .ok s)
    (hk : s.form.container? = some (k, container)) :
    ∃ e ∈ doc.domains, (∃ r, p.declared.arguments.getLast? = some r ∧ r.StandsFor e) ∧
      k.isOffered e = true ∧
      ∀ settings marker, ∃ n t items f stored, Naming.ofDomain settings e = .ok n ∧
        value (k.container? n marker) = .ok (some t) ∧ t.itemsType? container = some items ∧
        s.accessor = .ok f ∧
        f.statements =
          [⟨"this.%N = %T().apply(block).items()", [.text s.name, .type container]⟩] ∧
        s.storedProperty = .ok stored ∧
        (items = stored.type.nonNull ↔
          (k = .map → ∀ key ∈ p.declared.arguments.dropLast, key.nullable = false)) := by
  obtain ⟨_, hnamed, hdenoted⟩ := Document.closed_of_ofText h
  have hname := Document.name_ne_empty_of_ofText h d hd p hp
  obtain ⟨form, rfl, hform⟩ := follows_classify hs
  obtain ⟨e, he, hvalue, hoffered, hstored⟩ := hform.collectsAs hk (hdenoted d hd p hp) hnamed
  refine ⟨e, he, hvalue, hoffered, fun settings marker => ?_⟩
  obtain ⟨c, hc⟩ := ClassName.exists_ofQualified (hnamed e he)
  have hn := naming_of_className settings hc
  obtain ⟨t, ht, hvars, items, hitems, hreturns⟩ :=
    k.exists_container (functionName_ne_empty hn) marker
  obtain ⟨f, hf, hstatements⟩ := exists_accessor_of_container? hk hname
  obtain ⟨stored, hst, htype⟩ := storedProperty_of_name (s := make p form) hname
  have htaken : t.itemsType? container = some ((k.builtType c).instantiate
      ((k.typeVariables.map (·.name)).zip container.arguments)) := by
    unfold TypeDecl.itemsType? TypeDecl.assign
    rw [hitems, hvars, Option.bind_some, hreturns]
    rfl
  refine ⟨_, t, _, f, stored, hn, GroupKind.container?_of_offered ht hoffered, htaken, hf,
    hstatements, hst, ?_⟩
  rw [htype, TypeName.nonNull, TypeName.withNullable_withNullable]
  exact hstored c hc

def mappingText : String :=
  "domains:\n- name: A\n  mapGroup: ALL\n  properties:\n"
    ++ "  - name: b\n    type: Map<A, A>\n  - name: c\n    type: Map<A?, A>"

/-- The key type of the first property has no mark, and the container of the second one hands out
another type than the stored one. -/
def handsOutOther (doc : Document) (d : DomainType) (p q : DomainProperty) : Bool :=
  (p.declared.arguments.dropLast.all fun key => !key.nullable) &&
    yields (value (classify (.ofList doc.domains) none p)) (·.form.container?.isSome) &&
    yields (value (classify (.ofList doc.domains) none q)) fun s => s.form.container?.any fun c =>
      yields (Naming.ofDomain packageSettings d) fun n =>
        yields (value (c.1.container? n none)) fun t =>
          (t.bind (·.itemsType? c.2)).any (·.written == "kotlin.collections.Map<A, A>") &&
            yields s.storedProperty fun stored =>
              stored.type.nonNull.written == "kotlin.collections.Map<A?, A>"

theorem exists_handsOutOther : ∃ doc d p q, Document.ofText mappingText = .ok doc ∧
    d ∈ doc.domains ∧ p ∈ d.properties ∧ q ∈ d.properties ∧
    handsOutOther doc d p q = true :=
  Document.exists_properties (by decide +kernel)

theorem itemsType_eq_stored_unmarked :
    ∃ doc d p s k container, Document.ofText mappingText = .ok doc ∧ d ∈ doc.domains ∧
      p ∈ d.properties ∧ value (classify (.ofList doc.domains) none p) = .ok s ∧
      s.form.container? = some (k, container) ∧
      ∃ e ∈ doc.domains, ∃ n t items stored, Naming.ofDomain packageSettings e = .ok n ∧
        value (k.container? n none) = .ok (some t) ∧ t.itemsType? container = some items ∧
        s.storedProperty = .ok stored ∧ items = stored.type.nonNull := by
  obtain ⟨doc, d, p, _, h, hd, hp, _, hy⟩ := exists_handsOutOther
  simp only [handsOutOther, Bool.and_eq_true] at hy
  obtain ⟨⟨hkeys, hy⟩, _⟩ := hy
  obtain ⟨s, hs, hy⟩ := exists_of_yields hy
  obtain ⟨⟨k, container⟩, hk⟩ := Option.isSome_iff_exists.mp hy
  obtain ⟨e, he, _, _, hall⟩ := itemsType_eq_stored_iff h hd hp hs hk
  obtain ⟨n, t, items, _, stored, hn, ht, hitems, _, _, hst, hiff⟩ := hall packageSettings none
  refine ⟨doc, d, p, s, k, container, h, hd, hp, hs, hk, e, he, n, t, items, stored, hn, ht,
    hitems, hst, hiff.mpr fun _ key hkey => ?_⟩
  simpa using List.all_eq_true.mp hkeys key hkey

/-- The null mark of a key type is stored, and the container does not have it. -/
theorem itemsType_ne_stored_marked :
    ∃ doc d p s k container n t items stored, Document.ofText mappingText = .ok doc ∧
      d ∈ doc.domains ∧ p ∈ d.properties ∧ value (classify (.ofList doc.domains) none p) = .ok s ∧
      s.form.container? = some (k, container) ∧ Naming.ofDomain packageSettings d = .ok n ∧
      value (k.container? n none) = .ok (some t) ∧ t.itemsType? container = some items ∧
      s.storedProperty = .ok stored ∧ items.written = "kotlin.collections.Map<A, A>" ∧
      stored.type.nonNull.written = "kotlin.collections.Map<A?, A>" ∧
      items ≠ stored.type.nonNull := by
  obtain ⟨doc, d, _, q, h, hd, _, hq, hy⟩ := exists_handsOutOther
  simp only [handsOutOther, Bool.and_eq_true] at hy
  obtain ⟨_, hy⟩ := hy
  obtain ⟨s, hs, hy⟩ := exists_of_yields hy
  obtain ⟨⟨k, container⟩, hk, hy⟩ := (Option.any_eq_true _ _).mp hy
  obtain ⟨n, hn, hy⟩ := exists_of_yields hy
  obtain ⟨found, ht, hy⟩ := exists_of_yields hy
  obtain ⟨hfound, hstored⟩ := (Bool.and_eq_true _ _).mp hy
  obtain ⟨items, hfound, hw⟩ := (Option.any_eq_true _ _).mp hfound
  obtain ⟨t, rfl, hitems⟩ := Option.bind_eq_some_iff.mp hfound
  obtain ⟨stored, hst, hv⟩ := exists_of_yields hstored
  have hw := beq_iff_eq.mp hw
  have hv := beq_iff_eq.mp hv
  refine ⟨doc, d, q, s, k, container, n, t, items, stored, h, hd, hq, hs, hk, hn, ht, hitems, hst,
    hw, hv, ?_⟩
  intro he
  rw [he, hv] at hw
  revert hw
  decide

end Schema

end FluentKotlin
