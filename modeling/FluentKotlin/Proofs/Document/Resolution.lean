import FluentKotlin.Proofs.Document.Acceptance
import FluentKotlin.Proofs.Document.NameToken

/-! # Qualified names of what names stand for

What a name stands for has a qualified name, and that name stands for the same: for a type of the
standard library, for the domain that is registered under both names, or for the type of the package
that the shorter name was put in.
-/

namespace FluentKotlin

variable {name : String} {arguments : List TypeRef} {r : TypeRef}

section Standard

def listRef : List TypeRef → TypeRef
  | [element] => .collection element
  | as => .nominal listName as

def mapRef : List TypeRef → TypeRef
  | [key, value] => .map key value
  | as => .nominal mapName as

theorem qualifiedName_listRef (as : List TypeRef) : (listRef as).qualifiedName = some listName := by
  unfold listRef
  split <;> rfl

theorem qualifiedName_mapRef (as : List TypeRef) : (mapRef as).qualifiedName = some mapName := by
  unfold mapRef
  split <;> rfl

theorem lastSegment_of_isListName (h : isListName name = true) :
    Text.lastSegment name = "List" := by
  unfold isListName at h
  rcases (Bool.or_eq_true _ _).mp h with h | h <;> rw [beq_iff_eq.mp h] <;> decide +kernel

theorem lastSegment_of_isMapName (h : isMapName name = true) : Text.lastSegment name = "Map" := by
  unfold isMapName at h
  rcases (Bool.or_eq_true _ _).mp h with h | h <;> rw [beq_iff_eq.mp h] <;> decide +kernel

/-- A scalar comes first, then a list, then a map. -/
theorem standardRef?_eq (name : String) (arguments : List TypeRef) :
    standardRef? name arguments =
      (if isStandard name && arguments.isEmpty then scalarRef? (Text.lastSegment name)
        else none).or
      (if isListName name then some (listRef arguments)
        else if isMapName name then some (mapRef arguments) else none) := by
  unfold standardRef?
  dsimp only
  cases if isStandard name && arguments.isEmpty then scalarRef? (Text.lastSegment name)
      else none with
  | some r => rfl
  | none =>
    rw [Option.none_or]
    by_cases hl : isListName name
    · rw [if_pos hl, if_pos hl]
      have hq : "kotlin.collections." ++ Text.lastSegment name = listName := by
        rw [lastSegment_of_isListName hl]
        decide
      rw [hq]
      rcases arguments with _ | ⟨_, _ | _⟩ <;> rfl
    · rw [if_neg hl, if_neg hl]
      by_cases hm : isMapName name
      · rw [if_pos hm, if_pos hm]
        have hq : "kotlin.collections." ++ Text.lastSegment name = mapName := by
          rw [lastSegment_of_isMapName hm]
          decide
        rw [hq]
        rcases arguments with _ | ⟨_, _ | ⟨_, _ | _⟩⟩ <;> rfl
      · rw [if_neg hm, if_neg hm]

theorem standardRef?_eq_none_iff : standardRef? name arguments = none ↔
    (isStandard name = true → arguments = [] → scalarRef? (Text.lastSegment name) = none) ∧
      isListName name = false ∧ isMapName name = false := by
  rw [standardRef?_eq, Option.or_eq_none_iff]
  refine and_congr ?_ ?_
  · simp
  · cases isListName name <;> cases isMapName name <;> simp

theorem isStandard_of_undotted (h : '.' ∉ name.toList) : isStandard name = true := by
  unfold isStandard
  rw [Text.lastSegment_of_undotted h, beq_self_eq_true, Bool.true_or]

theorem standardRef?_eq_none_of_lastSegment
    (h : standardRef? (Text.lastSegment name) arguments = none) :
    standardRef? name arguments = none := by
  have hd := Text.not_mem_lastSegment name
  obtain ⟨hscalar, hlist, hmap⟩ := standardRef?_eq_none_iff.mp h
  rw [Text.lastSegment_of_undotted hd] at hscalar
  refine standardRef?_eq_none_iff.mpr ⟨fun _ => hscalar (isStandard_of_undotted hd), ?_, ?_⟩
  · rw [Bool.eq_false_iff]
    intro hl
    rw [lastSegment_of_isListName hl] at hlist
    cases hlist
  · rw [Bool.eq_false_iff]
    intro hm
    rw [lastSegment_of_isMapName hm] at hmap
    cases hmap

theorem standardRef?_kotlin {simple : String} (hd : '.' ∉ simple.toList)
    (h : scalarRef? simple = some r) : standardRef? ("kotlin" ++ "." ++ simple) [] = some r := by
  have hstandard : isStandard ("kotlin" ++ "." ++ simple) = true := by
    unfold isStandard
    rw [Bool.or_eq_true, Text.startsWith_iff, String.toList_append]
    exact Or.inr (List.prefix_append _ _)
  rw [standardRef?_eq, hstandard, Text.lastSegment_below, Text.lastSegment_of_undotted hd, h]
  rfl

theorem standardRef?_listName (as : List TypeRef) :
    standardRef? listName as = some (listRef as) := by
  have hl : isListName listName = true := by decide
  have hs : scalarRef? (Text.lastSegment listName) = none := by
    rw [lastSegment_of_isListName hl]
    rfl
  rw [standardRef?_eq, hs, ite_self, hl]
  rfl

theorem standardRef?_mapName (as : List TypeRef) : standardRef? mapName as = some (mapRef as) := by
  have hl : isListName mapName = false := by decide
  have hm : isMapName mapName = true := by decide
  have hs : scalarRef? (Text.lastSegment mapName) = none := by
    rw [lastSegment_of_isMapName hm]
    rfl
  rw [standardRef?_eq, hs, ite_self, hl, hm]
  rfl

theorem nullable_listRef (as : List TypeRef) : (listRef as).nullable = false := by
  unfold listRef
  split <;> rfl

theorem nullable_mapRef (as : List TypeRef) : (mapRef as).nullable = false := by
  unfold mapRef
  split <;> rfl

theorem nullable_of_standardRef? (h : standardRef? name arguments = some r) :
    r.nullable = false := by
  rw [standardRef?_eq, Option.or_eq_some_iff] at h
  rcases h with h | ⟨-, h⟩
  · split at h
    · obtain ⟨kind, -, -, -, rfl⟩ := TypeRef.scalarRef?_eq_some h
      rfl
    · cases h
  · split at h
    · cases h
      exact nullable_listRef arguments
    · split at h
      · cases h
        exact nullable_mapRef arguments
      · cases h

/-- Every name of a standard type can be replaced by the qualified one. -/
theorem standardRef?_qualified (hn : Whole name) (h : standardRef? name arguments = some r) :
    ∃ q, Noted q ∧ r.qualifiedName = some q ∧ standardRef? q arguments = some r := by
  rw [standardRef?_eq, Option.or_eq_some_iff] at h
  rcases h with h | ⟨-, h⟩
  · cases he : isStandard name && arguments.isEmpty with
    | false =>
      rw [he, if_neg Bool.false_ne_true] at h
      cases h
    | true =>
      obtain ⟨-, hempty⟩ := (Bool.and_eq_true _ _).mp he
      rw [he, if_pos rfl] at h
      rw [List.isEmpty_iff.mp hempty]
      obtain ⟨kind, -, -, -, hr⟩ := TypeRef.scalarRef?_eq_some h
      refine ⟨_, Noted.below (by decide) hn.lastSegment, ?_,
        standardRef?_kotlin (Text.not_mem_lastSegment name) h⟩
      rw [hr]
      rfl
  · cases hl : isListName name with
    | true =>
      rw [hl, if_pos rfl] at h
      cases h
      exact ⟨listName, Noted.of_isDotted (by decide +kernel), qualifiedName_listRef _,
        standardRef?_listName _⟩
    | false =>
      rw [hl, if_neg Bool.false_ne_true] at h
      cases hm : isMapName name with
      | true =>
        rw [hm, if_pos rfl] at h
        cases h
        exact ⟨mapName, Noted.of_isDotted (by decide +kernel), qualifiedName_mapRef _,
          standardRef?_mapName _⟩
      | false =>
        rw [hm, if_neg Bool.false_ne_true] at h
        cases h

end Standard

/-- The null mark of a type stands behind its name and belongs to nothing that the name stands for.
-/
@[simp] theorem nullable_resolveName {registry : Registry} {package : String} :
    (resolveName registry package name arguments).nullable = false := by
  unfold resolveName
  cases h : standardRef? name arguments with
  | some r => exact nullable_of_standardRef? h
  | none =>
    rw [Option.getD_none, domainRef]
    split <;> rfl

theorem DomainType.simpleName_of_whole {d : DomainType} (h : Whole d.qualifiedName) :
    d.simpleName = .ok (Text.lastSegment d.qualifiedName) := by
  obtain ⟨c, hc, -⟩ := h.exists_class
  obtain ⟨before, hs⟩ := ClassName.exists_shared hc
  have hsegments : Text.segments '.' d.qualifiedName = before ++ c.enclosing ++ [c.simpleName] := by
    rw [← h.nameSegments_eq, hs.segments, List.append_assoc]
    rfl
  have hlast : Text.lastSegment d.qualifiedName = c.simpleName := by
    unfold Text.lastSegment
    rw [hsegments, List.getLastD_concat]
  unfold simpleName className
  rw [hc, hlast]
  rfl

namespace Registry

variable {registry next : Registry} {d : DomainType} {package : String}

/-- Dotted names stand for the domains: each domain has its own qualified name, and the last segment
of that name stands for some domain. -/
structure Keyed (registry : Registry) : Prop where
  dotted : ∀ {name d}, registry.lookup name = some d → isDotted d.qualifiedName = true
  own : ∀ {name d}, registry.lookup name = some d → registry.lookup d.qualifiedName = some d
  among : ∀ {name d}, registry.lookup name = some d →
    name = d.qualifiedName ∨ name = Text.lastSegment d.qualifiedName
  simple : ∀ {name d}, registry.lookup name = some d →
    ∃ e, registry.lookup (Text.lastSegment d.qualifiedName) = some e

theorem keyed_nil : Keyed [] := ⟨nofun, nofun, nofun, nofun⟩

theorem Keyed.add (hk : registry.Keyed) (hd : isDotted d.qualifiedName = true)
    (h : registry.add d = .ok next) : next.Keyed := by
  have hs := DomainType.simpleName_of_whole (Whole.of_isDotted hd)
  constructor
  · intro name e he
    rcases lookup_of_add h he with he | ⟨rfl, -⟩
    · exact hk.dotted he
    · exact hd
  · intro name e he
    rcases lookup_of_add h he with he | ⟨rfl, -⟩
    · exact lookup_add_of_some h (hk.own he)
    · exact lookup_add_self h
  · intro name e he
    rcases lookup_of_add h he with he | ⟨rfl, hn | hn⟩
    · exact hk.among he
    · exact Or.inl hn
    · exact Or.inr (Except.ok.inj (hn.symm.trans hs))
  · intro name e he
    rcases lookup_of_add h he with he | ⟨rfl, -⟩
    · obtain ⟨f, hf⟩ := hk.simple he
      exact ⟨f, lookup_add_of_some h hf⟩
    · exact exists_lookup_of_add h hs

theorem Keyed.addAll {ds : List DomainType} (hk : registry.Keyed)
    (hd : ∀ d ∈ ds, isDotted d.qualifiedName = true) (h : registry.addAll ds = .ok next) :
    next.Keyed := by
  induction ds generalizing registry with
  | nil =>
    cases h
    exact hk
  | cons d ds ih =>
    obtain ⟨hfirst, hrest⟩ := List.forall_mem_cons.mp hd
    obtain ⟨mid, hm, h⟩ := bind_eq_ok.mp h
    exact ih (hk.add hfirst hm) hrest h

theorem resolveName_of_standard (h : standardRef? name arguments = some r) :
    resolveName registry package name arguments = r := by
  unfold resolveName
  rw [h, Option.getD_some]

theorem resolveName_of_domain (h : standardRef? name arguments = none)
    (hl : registry.lookup name = some d) : resolveName registry package name arguments =
      .generated d.qualifiedName d.listGroup d.mapGroup arguments := by
  unfold resolveName domainRef
  rw [h, Option.getD_none, hl]

theorem resolveName_of_none (h : standardRef? name arguments = none)
    (hl : registry.lookup name = none) : resolveName registry package name arguments =
      .nominal (qualify package name) arguments := by
  unfold resolveName domainRef
  rw [h, Option.getD_none, hl]

/-- A name below a package is for a domain only where its last segment is. -/
theorem Keyed.lookup_eq_none (hk : registry.Keyed) (hn : '.' ∉ name.toList)
    (hl : registry.lookup name = none) (package : String) :
    registry.lookup (package ++ "." ++ name) = none := by
  have hlast : Text.lastSegment (package ++ "." ++ name) = name := by
    rw [Text.lastSegment_below, Text.lastSegment_of_undotted hn]
  cases hq : registry.lookup (package ++ "." ++ name) with
  | none => rfl
  | some d =>
    exfalso
    rcases hk.among hq with he | he
    · obtain ⟨e, hsimple⟩ := hk.simple hq
      rw [← he, hlast, hl] at hsimple
      cases hsimple
    · refine Text.not_mem_lastSegment d.qualifiedName ?_
      rw [← he]
      simp

/-- What a name stands for is found again under its own qualified name. -/
theorem Keyed.resolveName_again (hk : registry.Keyed)
    (hp : package = "" ∨ isDotted package = true) (hn : Noted name) (arguments : List TypeRef) :
    ∃ q, Noted q ∧ (resolveName registry package name arguments).qualifiedName = some q ∧
      resolveName registry package q arguments = resolveName registry package name arguments := by
  cases hs : standardRef? name arguments with
  | some r =>
    obtain ⟨q, hq, hqualified, hagain⟩ := standardRef?_qualified hn.toWhole hs
    rw [resolveName_of_standard hs]
    exact ⟨q, hq, hqualified, resolveName_of_standard hagain⟩
  | none =>
    cases hl : registry.lookup name with
    | some d =>
      have hagain : standardRef? d.qualifiedName arguments = none := by
        rcases hk.among hl with rfl | rfl
        · exact hs
        · exact standardRef?_eq_none_of_lastSegment hs
      rw [resolveName_of_domain hs hl]
      exact ⟨d.qualifiedName, .of_isDotted (hk.dotted hl), rfl,
        resolveName_of_domain hagain (hk.own hl)⟩
    | none =>
      rw [resolveName_of_none hs hl]
      by_cases hd : Text.contains '.' name = true ∨ package = ""
      · have hq : qualify package name = name := if_pos (by simpa using hd)
        rw [hq]
        exact ⟨name, hn, rfl, by rw [resolveName_of_none hs hl, hq]⟩
      · obtain ⟨hdot, hne⟩ := not_or.mp hd
        rw [Text.contains_iff] at hdot
        have hq : qualify package name = package ++ "." ++ name :=
          if_neg (by simpa [Text.contains_iff] using ⟨hdot, hne⟩)
        have hagain : standardRef? (package ++ "." ++ name) arguments = none := by
          refine standardRef?_eq_none_of_lastSegment ?_
          rwa [Text.lastSegment_below, Text.lastSegment_of_undotted hdot]
        have hqualify : qualify package (package ++ "." ++ name) = package ++ "." ++ name :=
          if_pos (by simp [Text.contains_iff])
        rw [hq]
        refine ⟨_, Noted.below (hp.resolve_left hne) hn.toWhole, rfl, ?_⟩
        rw [resolveName_of_none hagain (hk.lookup_eq_none hdot hl package), hqualify]

end Registry

end FluentKotlin
