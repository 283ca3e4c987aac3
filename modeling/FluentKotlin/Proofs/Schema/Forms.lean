import FluentKotlin.Proofs.Document.Acceptance
import FluentKotlin.Schema.Classify

/-! # The forms of schemas

The rules by which a property gets its form, each with what it asks of the property. Classification
follows them, and it gives a schema to every property of a closed document.
-/

namespace FluentKotlin

/-- The kind or the name of the reference says that it is a map. -/
def TypeRef.IsMap (r : TypeRef) : Prop := r.kind = .map ∨ r.qualifiedName = some mapName

/-- The kind or the name of the reference says that it is a list. -/
def TypeRef.IsList (r : TypeRef) : Prop := r.kind = .collection ∨ r.qualifiedName = some listName

theorem TypeRef.isGroupElement_iff {r : TypeRef} :
    r.isGroupElement = true ↔ r.kind = .nominal ∧ r.generable = true ∧ r.listGroup = true := by
  simp [isGroupElement, and_assoc]

theorem TypeRef.isMapGroupValue_iff {r : TypeRef} :
    r.isMapGroupValue = true ↔
      r.kind = .nominal ∧ r.generable = true ∧ r.mapGroup.active = true := by
  simp [isMapGroupValue, and_assoc]

namespace Schema

theorem isGenerated_iff {r : TypeRef} :
    isGenerated r = true ↔ r.kind = .nominal ∧ r.generable = true := by
  simp [isGenerated]

/-- Neither a transform nor a described domain decides about the property. -/
structure Structural (p : DomainProperty) : Prop where
  transform : p.transform = none
  generated : isGenerated p.declared = false

/-- The rule for each form. -/
inductive FormOf (known : KnownDomains) (p : DomainProperty) : Form → Prop where
  | transform {hint : TransformHint} {r : TypeRef} {t input : TypeName} :
      p.transform = some hint → hint.input = some r → p.typeName = .ok t →
      r.typeName = .ok input → FormOf known p (.transform t input hint.template)
  | withoutInput {hint : TransformHint} {t : TypeName} :
      p.transform = some hint → hint.input = none → p.typeName = .ok t →
      FormOf known p (.plain t)
  | builder {c : ClassName} {t : TypeName} :
      p.transform = none → isGenerated p.declared = true → p.declared.className = .ok c →
      p.typeName = .ok t →
      FormOf known p (.builder t (builderClassFor c)
        (builderDoc known (builderClassFor c) p.declared.qualifiedName))
  | boolean : Structural p → p.declared.kind = .boolean → FormOf known p .boolean
  | scalar {t : TypeName} :
      Structural p → p.declared.kind ∈ [.char, .string, .numeric] → p.typeName = .ok t →
      FormOf known p (.plain t)
  | mapGroup {key value : TypeRef} {keyType : TypeName} {c : ClassName} :
      Structural p → p.declared.IsMap → p.declared.arguments = [key, value] →
      value.isMapGroupValue = true → key.typeName = .ok keyType → value.className = .ok c →
      FormOf known p (.mapGroup keyType c (builderClassFor c)
        (builderDoc known (builderClassFor c) value.qualifiedName))
  | map {key value : TypeRef} {keyType valueType : TypeName} :
      Structural p → p.declared.IsMap → p.declared.arguments = [key, value] →
      value.isMapGroupValue = false → key.typeName = .ok keyType →
      value.typeName = .ok valueType → FormOf known p (.map keyType valueType)
  | bareMap {t : TypeName} :
      Structural p → p.declared.IsMap → p.declared.arguments.length ≠ 2 → p.typeName = .ok t →
      FormOf known p (.plain t)
  | group {element : TypeRef} {c : ClassName} :
      Structural p → ¬ p.declared.IsMap → p.declared.IsList → p.declared.arguments = [element] →
      element.isGroupElement = true → element.className = .ok c →
      FormOf known p (.group c (builderClassFor c)
        (builderDoc known (builderClassFor c) element.qualifiedName))
  | collection {element : TypeRef} {elementType : TypeName} :
      Structural p → ¬ p.declared.IsMap → p.declared.IsList → p.declared.arguments = [element] →
      element.isGroupElement = false → element.typeName = .ok elementType →
      FormOf known p (.collection elementType)
  | bareList {t : TypeName} :
      Structural p → ¬ p.declared.IsMap → p.declared.IsList → p.declared.arguments.length ≠ 1 →
      p.typeName = .ok t → FormOf known p (.plain t)
  | other {t : TypeName} :
      Structural p → ¬ p.declared.IsMap → ¬ p.declared.IsList → p.typeName = .ok t →
      FormOf known p (.plain t)

open Reporting

variable {known : KnownDomains} {label : Option String} {p : DomainProperty} {s : Schema}

/-- The schema takes over what the property says, and its form follows a rule. -/
def Follows (known : KnownDomains) (p : DomainProperty) (s : Schema) : Prop :=
  ∃ form, s = make p form ∧ FormOf known p form

theorem fallback_eq_ok (h : value (fallback p) = .ok s) :
    ∃ t, p.typeName = .ok t ∧ s = make p (.plain t) := by
  unfold fallback at h
  simp only [value_bind, value_liftM, value_pure] at h
  obtain ⟨t, ht, h⟩ := bind_eq_ok.mp h
  cases h
  exact ⟨t, ht, rfl⟩

theorem follows_ofHint {hint : TransformHint} (ht : p.transform = some hint)
    (h : value (ofHint label p hint) = .ok s) : Follows known p s := by
  unfold ofHint at h
  simp only [value_bind, value_debug, ok_bind, value_liftM] at h
  obtain ⟨_, _, h⟩ := bind_eq_ok.mp h
  cases hi : hint.input with
  | none =>
    simp only [hi, value_bind, value_warn, ok_bind] at h
    obtain ⟨t, hn, rfl⟩ := fallback_eq_ok h
    exact ⟨_, rfl, .withoutInput ht hi hn⟩
  | some r =>
    simp only [hi, value_bind, value_liftM, value_pure] at h
    obtain ⟨t, hn, h⟩ := bind_eq_ok.mp h
    obtain ⟨input, hr, h⟩ := bind_eq_ok.mp h
    cases h
    exact ⟨_, rfl, .transform ht hi hn hr⟩

theorem follows_ofDomain (ht : p.transform = none) (hg : isGenerated p.declared = true)
    (h : value (ofDomain known p) = .ok s) : Follows known p s := by
  unfold ofDomain at h
  simp only [value_bind, value_debug, ok_bind, value_liftM, value_pure] at h
  obtain ⟨c, hc, h⟩ := bind_eq_ok.mp h
  obtain ⟨t, hn, h⟩ := bind_eq_ok.mp h
  cases h
  exact ⟨_, rfl, .builder ht hg hc hn⟩

theorem isContainer_eq_ok {kind : TypeKind} {name : String} {b : Bool}
    (h : value (isContainer label p kind name) = .ok b) :
    b = true ↔ p.declared.kind = kind ∨ p.declared.qualifiedName = some name := by
  have hb : b = (p.declared.kind == kind || p.declared.qualifiedName == some name) := by
    unfold isContainer at h
    dsimp only at h
    split at h
    · simp only [value_bind, value_liftM, value_warn, ok_bind, value_pure] at h
      obtain ⟨_, _, h⟩ := bind_eq_ok.mp h
      cases h
      rfl
    · simp only [value_pure] at h
      cases h
      rfl
  rw [hb, Bool.or_eq_true, beq_iff_eq, beq_iff_eq]

theorem follows_ofMap (hs : Structural p) (hm : p.declared.IsMap)
    (h : value (ofMap known label p) = .ok s) : Follows known p s := by
  unfold ofMap at h
  split at h
  case h_1 key val ha =>
    simp only [value_bind, value_debug, ok_bind, value_liftM] at h
    obtain ⟨keyType, hk, h⟩ := bind_eq_ok.mp h
    obtain ⟨valueType, hv, h⟩ := bind_eq_ok.mp h
    cases hg : val.isMapGroupValue with
    | true =>
      rw [hg, if_pos rfl] at h
      simp only [value_bind, value_debug, ok_bind, value_liftM, value_pure] at h
      obtain ⟨c, hc, h⟩ := bind_eq_ok.mp h
      cases h
      exact ⟨_, rfl, .mapGroup hs hm ha hg hk hc⟩
    | false =>
      rw [hg, if_neg Bool.false_ne_true] at h
      cases h
      exact ⟨_, rfl, .map hs hm ha hg hk hv⟩
  case h_2 hn =>
    simp only [value_bind, value_liftM, value_warn, ok_bind] at h
    obtain ⟨_, _, h⟩ := bind_eq_ok.mp h
    obtain ⟨t, ht, rfl⟩ := fallback_eq_ok h
    refine ⟨_, rfl, .bareMap hs hm ?_ ht⟩
    intro hl
    obtain ⟨key, val, ha⟩ := List.length_eq_two.mp hl
    exact hn key val ha

theorem follows_ofList (hs : Structural p) (hm : ¬ p.declared.IsMap) (hl : p.declared.IsList)
    (h : value (ofList known label p) = .ok s) : Follows known p s := by
  unfold ofList at h
  split at h
  case h_1 element ha =>
    simp only [value_bind, value_debug, ok_bind, value_liftM] at h
    obtain ⟨elementType, he, h⟩ := bind_eq_ok.mp h
    cases hg : element.isGroupElement with
    | true =>
      rw [hg, if_pos rfl] at h
      simp only [value_bind, value_debug, ok_bind, value_liftM, value_pure] at h
      obtain ⟨c, hc, h⟩ := bind_eq_ok.mp h
      cases h
      exact ⟨_, rfl, .group hs hm hl ha hg hc⟩
    | false =>
      rw [hg, if_neg Bool.false_ne_true] at h
      cases h
      exact ⟨_, rfl, .collection hs hm hl ha hg he⟩
  case h_2 hn =>
    simp only [value_bind, value_liftM, value_warn, ok_bind] at h
    obtain ⟨_, _, h⟩ := bind_eq_ok.mp h
    obtain ⟨t, ht, rfl⟩ := fallback_eq_ok h
    refine ⟨_, rfl, .bareList hs hm hl ?_ ht⟩
    intro h1
    obtain ⟨element, ha⟩ := List.length_eq_one_iff.mp h1
    exact hn element ha

theorem follows_ofContainer (hs : Structural p) (h : value (ofContainer known label p) = .ok s) :
    Follows known p s := by
  unfold ofContainer at h
  simp only [value_bind] at h
  obtain ⟨isMap, hm, h⟩ := bind_eq_ok.mp h
  have hm := isContainer_eq_ok hm
  cases isMap with
  | true =>
    rw [if_pos rfl] at h
    simp only [value_bind, value_debug, ok_bind] at h
    exact follows_ofMap hs (hm.mp rfl) h
  | false =>
    rw [if_neg Bool.false_ne_true] at h
    simp only [value_bind] at h
    obtain ⟨isList, hl, h⟩ := bind_eq_ok.mp h
    have hl := isContainer_eq_ok hl
    have hnm : ¬ p.declared.IsMap := fun hc => Bool.false_ne_true (hm.mpr hc)
    cases isList with
    | true =>
      rw [if_pos rfl] at h
      simp only [value_bind, value_debug, ok_bind] at h
      exact follows_ofList hs hnm (hl.mp rfl) h
    | false =>
      rw [if_neg Bool.false_ne_true] at h
      simp only [value_bind, value_liftM, value_warn, ok_bind] at h
      obtain ⟨_, _, h⟩ := bind_eq_ok.mp h
      obtain ⟨t, ht, rfl⟩ := fallback_eq_ok h
      exact ⟨_, rfl, .other hs hnm (fun hc => Bool.false_ne_true (hl.mpr hc)) ht⟩

/-- What decides about a property, whatever domains are known, and how it is then classified. -/
inductive Choice (p : DomainProperty) : Prop where
  | hint {hint : TransformHint} (ht : p.transform = some hint)
      (hc : ∀ known label, choose known label p = ofHint label p hint)
  | domain (ht : p.transform = none) (hg : isGenerated p.declared = true)
      (hc : ∀ known label, choose known label p = ofDomain known p)
  | boolean (hs : Structural p) (hk : p.declared.kind = .boolean)
      (hc : ∀ known label, choose known label p = pure (make p .boolean))
  | scalar (hs : Structural p) (hk : p.declared.kind ∈ [.char, .string, .numeric])
      (hc : ∀ known label, choose known label p = fallback p)
  | container (hs : Structural p) (hk : p.declared.kind ∉ [.boolean, .char, .string, .numeric])
      (hc : ∀ known label, choose known label p = ofContainer known label p)

theorem choice (p : DomainProperty) : Choice p := by
  cases ht : p.transform with
  | some hint => exact .hint ht fun known label => by simp only [choose, ht]
  | none =>
    cases hg : isGenerated p.declared with
    | true => exact .domain ht hg fun known label => by simp only [choose, ht, hg, if_true]
    | false =>
      have hs : Structural p := ⟨ht, hg⟩
      cases hk : p.declared.kind with
      | boolean => exact .boolean hs hk fun known label => by simp [choose, ht, hg, hk]
      | char | string | numeric =>
        exact .scalar hs (by simp [hk]) fun known label => by simp [choose, ht, hg, hk]
      | map | collection | nominal =>
        exact .container hs (by simp [hk]) fun known label => by simp [choose, ht, hg, hk]

theorem follows_choose (h : value (choose known label p) = .ok s) : Follows known p s := by
  cases choice p with
  | hint ht hc =>
    rw [hc] at h
    exact follows_ofHint ht h
  | domain ht hg hc =>
    rw [hc] at h
    exact follows_ofDomain ht hg h
  | boolean hs hk hc =>
    rw [hc] at h
    cases h
    exact ⟨_, rfl, .boolean hs hk⟩
  | scalar hs hk hc =>
    rw [hc] at h
    obtain ⟨t, hn, rfl⟩ := fallback_eq_ok h
    exact ⟨_, rfl, .scalar hs hk hn⟩
  | container hs _ hc =>
    rw [hc] at h
    exact follows_ofContainer hs h

theorem follows_classify (h : value (classify known label p) = .ok s) : Follows known p s := by
  unfold classify at h
  simp only [value_bind, value_debug, ok_bind, value_liftM, value_pure] at h
  obtain ⟨_, _, h⟩ := bind_eq_ok.mp h
  obtain ⟨s', hs, h⟩ := bind_eq_ok.mp h
  cases h
  exact follows_choose hs

theorem classifyAll_eq_ok {ps : List DomainProperty} {ss : List Schema}
    (h : value (classifyAll known label ps) = .ok ss) :
    List.Forall₂ (fun p s => value (classify known label p) = .ok s) ps ss := by
  refine (eq_ok_iff_forall₂ (g := fun ps => value (classifyAll known label ps)) rfl ?_).mp h
  intro p ps
  simp only [classifyAll, value_bind, value_pure]
  rfl

theorem ofDomainType_eq_ok {d : DomainType} {ss : List Schema}
    (h : value (ofDomainType known d) = .ok ss) :
    List.Forall₂ (fun p s => value (classify known (some d.qualifiedName) p) = .ok s)
      d.properties ss := by
  unfold ofDomainType at h
  simp only [value_bind, value_debug, ok_bind] at h
  exact classifyAll_eq_ok h

theorem follows_ofDomainType {d : DomainType} {ss : List Schema}
    (h : value (ofDomainType known d) = .ok ss) :
    List.Forall₂ (Follows known) d.properties ss :=
  (ofDomainType_eq_ok h).imp fun _ _ => follows_classify

end Schema

end FluentKotlin
