import FluentKotlin.Document.Registry
import FluentKotlin.Proofs.Kotlin.QualifiedName
import FluentKotlin.Proofs.Report.Value
import Mathlib.Data.List.Forall2

/-! # References of a document

The references that type texts denote are built from the scalars, lists and maps of the standard
library, from other names, and from the domains of the document with their group modes. All of them
denote a type.
-/

namespace FluentKotlin

namespace TypeRef

/-- The references that the type texts of a document with these domains can denote. -/
inductive Denoted (ds : List DomainType) : TypeRef → Prop where
  | scalar {name : String} {r : TypeRef} : scalarRef? name = some r → Denoted ds r
  | collection {element : TypeRef} : Denoted ds element → Denoted ds (.collection element)
  | map {key value : TypeRef} : Denoted ds key → Denoted ds value → Denoted ds (.map key value)
  | nominal {name : String} {arguments : List TypeRef} : ClassName.IsName name →
      (∀ a ∈ arguments, Denoted ds a) → Denoted ds (.nominal name arguments)
  | generated {d : DomainType} {arguments : List TypeRef} : d ∈ ds →
      ClassName.IsName d.qualifiedName → (∀ a ∈ arguments, Denoted ds a) →
      Denoted ds (.generated d.qualifiedName d.listGroup d.mapGroup arguments)
  | marked {r : TypeRef} (nullable : Bool) : Denoted ds r → Denoted ds (r.withNullable nullable)

/-- The domain that a reference stands for, with the group modes of the reference. -/
structure StandsFor (r : TypeRef) (d : DomainType) : Prop where
  kind : r.kind = .nominal
  qualifiedName : r.qualifiedName = some d.qualifiedName
  listGroup : r.listGroup = d.listGroup
  mapGroup : r.mapGroup = d.mapGroup

variable {ds es : List DomainType} {r : TypeRef} {t : TypeName} {rs : List TypeRef}
  {ts : List TypeName}

theorem scalarRef?_eq_some {name : String} (h : scalarRef? name = some r) :
    ∃ kind, kind ≠ .nominal ∧ kind ≠ .collection ∧ kind ≠ .map ∧ r = scalar kind name := by
  unfold scalarRef? at h
  by_cases hb : name = "Boolean"
  · rw [if_pos hb] at h
    cases h
    exact ⟨.boolean, by decide, by decide, by decide, by rw [hb]; rfl⟩
  rw [if_neg hb] at h
  by_cases hs : name = "String"
  · rw [if_pos hs] at h
    cases h
    exact ⟨.string, by decide, by decide, by decide, by rw [hs]; rfl⟩
  rw [if_neg hs] at h
  by_cases hc : name = "Char"
  · rw [if_pos hc] at h
    cases h
    exact ⟨.char, by decide, by decide, by decide, by rw [hc]; rfl⟩
  rw [if_neg hc] at h
  by_cases hn : name ∈ numericNames
  · rw [if_pos hn] at h
    cases h
    exact ⟨.numeric, by decide, by decide, by decide, rfl⟩
  · rw [if_neg hn] at h
    cases h

/-- Only what the domains say about their names and group modes matters. -/
theorem Denoted.mono (h : r.Denoted ds)
    (hs : ∀ d ∈ ds, ∃ e ∈ es, e.qualifiedName = d.qualifiedName ∧ e.listGroup = d.listGroup ∧
      e.mapGroup = d.mapGroup) : r.Denoted es := by
  induction h with
  | scalar h => exact .scalar h
  | collection _ ih => exact .collection ih
  | map _ _ ihk ihv => exact .map ihk ihv
  | nominal hn _ ih => exact .nominal hn ih
  | generated hd hn _ ih =>
    obtain ⟨e, he, hq, hl, hm⟩ := hs _ hd
    rw [← hq, ← hl, ← hm]
    exact .generated he (hq ▸ hn) ih
  | marked b _ ih => exact .marked b ih

theorem Denoted.arguments (h : r.Denoted ds) : ∀ a ∈ r.arguments, a.Denoted ds := by
  induction h with
  | scalar h =>
    obtain ⟨_, _, _, _, rfl⟩ := scalarRef?_eq_some h
    intro a ha
    cases ha
  | collection he _ =>
    intro a ha
    rw [List.mem_singleton.mp ha]
    exact he
  | map hk hv _ _ =>
    intro a ha
    rcases List.mem_cons.mp ha with rfl | ha
    · exact hk
    · rw [List.mem_singleton.mp ha]
      exact hv
  | nominal _ ha _ => exact ha
  | generated _ _ ha _ => exact ha
  | marked _ _ ih => exact ih

/-- A reference that claims to be a domain stands for a domain of the document. -/
theorem Denoted.exists_domain (h : r.Denoted ds) (hg : r.generable = true) :
    ∃ d ∈ ds, r.StandsFor d := by
  induction h with
  | scalar h =>
    obtain ⟨_, _, _, _, rfl⟩ := scalarRef?_eq_some h
    cases hg
  | collection => cases hg
  | map => cases hg
  | nominal => cases hg
  | generated hd _ _ _ => exact ⟨_, hd, ⟨rfl, rfl, rfl, rfl⟩⟩
  | marked _ _ ih =>
    obtain ⟨d, hd, hs⟩ := ih hg
    exact ⟨d, hd, ⟨hs.kind, hs.qualifiedName, hs.listGroup, hs.mapGroup⟩⟩

theorem textOr_of_ne {s other : String} (h : s ≠ "") : textOr (some s) other = s := by
  simp [textOr, h]

theorem textOr_of_isName {s other : String} (h : ClassName.IsName s) :
    textOr (some s) other = s := by
  refine textOr_of_ne ?_
  rintro rfl
  exact ClassName.not_isName_empty h

theorem className_of_qualifiedName {name : String} (h : r.qualifiedName = some name)
    (hne : name ≠ "") : r.className = ClassName.ofQualified name := by
  unfold TypeRef.className classText
  rw [h, textOr_of_ne hne]

theorem StandsFor.className {d : DomainType} (h : r.StandsFor d)
    (hn : ClassName.IsName d.qualifiedName) : r.className = d.className := by
  unfold TypeRef.className classText DomainType.className
  rw [h.qualifiedName, textOr_of_isName hn]

@[simp] theorem bareType_withNullable (b : Bool) : (r.withNullable b).bareType = r.bareType := by
  cases r
  simp only [withNullable, bareType]

theorem spells_kotlin : ClassName.Spells "kotlin." := ⟨'k', by decide, by decide, by decide⟩

theorem isName_scalar (name : String) : ClassName.IsName ("kotlin." ++ name) :=
  (spells_kotlin.append_right name).isName

theorem Denoted.exists_className (h : r.Denoted ds) : ∃ c, r.className = .ok c := by
  induction h with
  | scalar h =>
    obtain ⟨kind, _, _, _, rfl⟩ := scalarRef?_eq_some h
    unfold TypeRef.className classText
    rw [show (TypeRef.scalar kind _).qualifiedName = some ("kotlin." ++ _) from rfl,
      textOr_of_isName (isName_scalar _)]
    exact ClassName.exists_ofQualified (isName_scalar _)
  | collection _ _ =>
    exact @ClassName.exists_ofQualified listName (by unfold ClassName.IsName; decide)
  | map _ _ _ _ =>
    exact @ClassName.exists_ofQualified mapName (by unfold ClassName.IsName; decide)
  | nominal hn _ _ =>
    unfold TypeRef.className classText
    rw [show (TypeRef.nominal _ _).qualifiedName = some _ from rfl, textOr_of_isName hn]
    exact ClassName.exists_ofQualified hn
  | generated _ hn _ _ =>
    unfold TypeRef.className classText
    rw [show (TypeRef.generated _ _ _ _).qualifiedName = some _ from rfl, textOr_of_isName hn]
    exact ClassName.exists_ofQualified hn
  | marked _ _ ih => exact ih

theorem typeName_eq_ok : r.typeName = .ok t ↔
    ∃ bare, r.bareType = .ok bare ∧ bare.withNullable r.nullable = t := map_eq_ok

theorem typeAs_of_bareType (h : r.bareType = .ok t) (b : Bool) :
    r.typeAs b = .ok (t.withNullable b) := map_eq_ok.mpr ⟨t, h, rfl⟩

/-- The null mark of a reference can be chosen apart from its type. -/
theorem typeAs_of_typeAs {a : Bool} (h : r.typeAs a = .ok t) (b : Bool) :
    r.typeAs b = .ok (t.withNullable b) := by
  obtain ⟨bare, hbare, rfl⟩ := map_eq_ok.mp h
  rw [TypeName.withNullable_withNullable]
  exact typeAs_of_bareType hbare b

theorem argumentTypes_eq_ok :
    argumentTypes rs = .ok ts ↔ List.Forall₂ (fun r t => r.typeName = .ok t) rs ts := by
  induction rs generalizing ts with
  | nil =>
    rw [argumentTypes, List.forall₂_nil_left_iff]
    constructor
    · intro h
      cases h
      rfl
    · rintro rfl
      rfl
  | cons r rs ih =>
    rw [argumentTypes, List.forall₂_cons_left_iff]
    constructor
    · intro h
      obtain ⟨bare, hb, h⟩ := bind_eq_ok.mp h
      obtain ⟨us, hu, h⟩ := bind_eq_ok.mp h
      exact ⟨_, us, typeName_eq_ok.mpr ⟨bare, hb, rfl⟩, ih.mp hu, (pure_eq_ok.mp h).symm⟩
    · rintro ⟨t, us, ht, hu, rfl⟩
      obtain ⟨bare, hb, rfl⟩ := typeName_eq_ok.mp ht
      rw [hb, ih.mpr hu]
      rfl

theorem bareType_eq (r : TypeRef) :
    r.bareType =
      if isContainer r.kind r.arguments.length then do
        let types ← argumentTypes r.arguments
        return .apply (containerClass r.kind) types
      else do
        let raw ← r.className
        let types ← argumentTypes r.arguments
        return applyAll raw types := by
  cases r
  rw [bareType]
  rfl

theorem exists_argumentTypes {rs : List TypeRef} (h : ∀ r ∈ rs, ∃ t, r.bareType = .ok t) :
    ∃ ts, argumentTypes rs = .ok ts := by
  induction rs with
  | nil => exact ⟨[], by rw [argumentTypes]⟩
  | cons r rs ih =>
    obtain ⟨t, ht⟩ := h r List.mem_cons_self
    obtain ⟨ts, hts⟩ := ih fun s hs => h s (List.mem_cons_of_mem _ hs)
    refine ⟨t.withNullable r.nullable :: ts, ?_⟩
    rw [argumentTypes, ht, hts]
    rfl

theorem exists_bareType {c : ClassName} (hc : r.className = .ok c)
    (ha : ∀ a ∈ r.arguments, ∃ t, a.bareType = .ok t) : ∃ t, r.bareType = .ok t := by
  obtain ⟨kind, name, qualifiedName, arguments, g, l, m, b⟩ := r
  obtain ⟨ts, hts⟩ := exists_argumentTypes ha
  unfold TypeRef.className at hc
  dsimp only at hc hts
  rw [bareType, hts, hc]
  split
  · exact ⟨_, rfl⟩
  · exact ⟨_, rfl⟩

theorem Denoted.exists_bareType (h : r.Denoted ds) : ∃ t, r.bareType = .ok t := by
  have hc := h.exists_className
  induction h with
  | scalar h =>
    obtain ⟨c, hc⟩ := hc
    refine TypeRef.exists_bareType hc ?_
    obtain ⟨_, _, _, _, rfl⟩ := scalarRef?_eq_some h
    intro a ha
    cases ha
  | collection he ih =>
    obtain ⟨c, hc⟩ := hc
    refine TypeRef.exists_bareType hc ?_
    intro a ha
    rw [List.mem_singleton.mp ha]
    exact ih he.exists_className
  | map hk hv ihk ihv =>
    obtain ⟨c, hc⟩ := hc
    refine TypeRef.exists_bareType hc ?_
    intro a ha
    rcases List.mem_cons.mp ha with rfl | ha
    · exact ihk hk.exists_className
    · rw [List.mem_singleton.mp ha]
      exact ihv hv.exists_className
  | nominal _ ha ih =>
    obtain ⟨c, hc⟩ := hc
    exact TypeRef.exists_bareType hc fun a hm => ih a hm (ha a hm).exists_className
  | generated _ _ ha ih =>
    obtain ⟨c, hc⟩ := hc
    exact TypeRef.exists_bareType hc fun a hm => ih a hm (ha a hm).exists_className
  | marked b h ih =>
    rw [bareType_withNullable]
    exact ih h.exists_className

theorem Denoted.exists_typeAs (h : r.Denoted ds) (b : Bool) : ∃ t, r.typeAs b = .ok t := by
  obtain ⟨t, ht⟩ := h.exists_bareType
  unfold typeAs
  rw [ht]
  exact ⟨_, rfl⟩

theorem Denoted.exists_typeName (h : r.Denoted ds) : ∃ t, r.typeName = .ok t :=
  h.exists_typeAs r.nullable

end TypeRef

end FluentKotlin
