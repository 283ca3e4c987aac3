import FluentKotlin.Schema.Classify
import Mathlib.Data.List.Nodup
import Mathlib.Data.List.Perm.Basic

/-! # The known domains

A schema depends on the known domains only through what is known under a name, for the
documentation of the builders. Domains with names of their own are known alike in every order.
-/

namespace FluentKotlin

namespace KnownDomains

variable {ds es : List DomainType}

theorem lookup_ofList_eq_some (h : (ds.map (·.qualifiedName)).Nodup) {name : String}
    {d : DomainType} : (ofList ds).lookup name = some d ↔ d ∈ ds ∧ d.qualifiedName = name := by
  have hmem : (name, d) ∈ ofList ds ↔ d ∈ ds ∧ d.qualifiedName = name := by
    unfold ofList
    rw [List.mem_reverse, List.mem_map]
    constructor
    · rintro ⟨e, he, heq⟩
      cases heq
      exact ⟨he, rfl⟩
    · rintro ⟨hd, rfl⟩
      exact ⟨d, hd, rfl⟩
  have hkeys : ((ofList ds).map (·.1)).Nodup := by
    unfold ofList
    rw [List.map_reverse, List.map_map, List.nodup_reverse]
    exact h
  rw [← hmem, List.lookup_eq_some_iff]
  constructor
  · rintro ⟨before, after, hs, _⟩
    rw [hs]
    exact List.mem_append_right _ List.mem_cons_self
  · intro hm
    obtain ⟨before, after, hs⟩ := List.append_of_mem hm
    refine ⟨before, after, hs, fun p hp => ?_⟩
    rw [hs, List.map_append, List.map_cons, List.nodup_middle, List.nodup_cons] at hkeys
    have hne : name ≠ p.1 := by
      rintro rfl
      exact hkeys.1 (List.mem_append_left _ (List.mem_map.mpr ⟨p, hp, rfl⟩))
    simpa using hne

/-- The order of domains with names of their own does not show in what is known. -/
theorem lookup_ofList_congr (h : (ds.map (·.qualifiedName)).Nodup) (hp : ds.Perm es)
    (name : String) : (ofList ds).lookup name = (ofList es).lookup name := by
  have h' : (es.map (·.qualifiedName)).Nodup := (hp.map _).nodup_iff.mp h
  refine Option.ext fun d => ?_
  rw [lookup_ofList_eq_some h, lookup_ofList_eq_some h', hp.mem_iff]

end KnownDomains

namespace Schema

variable {known other : KnownDomains} (h : ∀ name, known.lookup name = other.lookup name)

include h

theorem builderDoc_congr : builderDoc known = builderDoc other := by
  funext builder qualifiedName
  unfold builderDoc
  rw [h]

theorem choose_congr (label : Option String) (p : DomainProperty) :
    choose known label p = choose other label p := by
  unfold choose ofContainer ofMap ofList ofDomain
  rw [builderDoc_congr h]

theorem classifyAll_congr (label : Option String) (ps : List DomainProperty) :
    classifyAll known label ps = classifyAll other label ps := by
  induction ps with
  | nil => rfl
  | cons p ps ih =>
    unfold classifyAll classify
    rw [choose_congr h, ih]

theorem ofDomainType_congr (d : DomainType) : ofDomainType known d = ofDomainType other d := by
  unfold ofDomainType
  rw [classifyAll_congr h]

end Schema

end FluentKotlin
