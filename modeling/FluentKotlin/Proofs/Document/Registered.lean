import FluentKotlin.Proofs.Document.Acceptance

/-! # Domains by name

Domains with simple names of their own are registered in whatever order they come, and a name
stands for the one domain whose qualified or simple name it is. So the order of the domains does not
show in the registry.
-/

namespace FluentKotlin

variable {ds es : List DomainType} {d e : DomainType} {name : String}

theorem Document.isNamed_iff :
    Document.isNamed name d = true ↔ d.qualifiedName = name ∨ d.simpleName = .ok name := by
  unfold isNamed
  cases h : d.simpleName with
  | ok simple => simp
  | error e => simp

theorem DomainType.simpleName_of_undotted (ht : Text.trim d.qualifiedName = d.qualifiedName)
    (hd : '.' ∉ d.qualifiedName.toList) (hne : d.qualifiedName ≠ "") :
    d.simpleName = .ok d.qualifiedName := by
  have hs : ClassName.nameSegments d.qualifiedName = [d.qualifiedName] := by
    unfold ClassName.nameSegments
    rw [ht, Text.segments_eq_singleton hd]
    simp [hne]
  have hcut : splitAtClass [d.qualifiedName] = ([], [d.qualifiedName]) := by
    unfold splitAtClass
    cases hu : startsUppercase d.qualifiedName <;> simp [hu]
  unfold simpleName className ClassName.ofQualified
  rw [hs, hcut]
  rfl

theorem DomainType.simpleName_eq_ok {s : String} (h : d.simpleName = .ok s) :
    s ≠ "" ∧ '.' ∉ s.toList := by
  obtain ⟨c, hc, rfl⟩ := map_eq_ok.mp h
  obtain ⟨_, hs⟩ := ClassName.exists_shared hc
  obtain ⟨hne, hdot, _⟩ := ClassName.mem_nameSegments hs.simpleName_mem
  exact ⟨hne, hdot⟩

structure Apart (ds : List DomainType) : Prop where
  trimmed : ∀ d ∈ ds, Text.trim d.qualifiedName = d.qualifiedName
  named : ∀ d ∈ ds, ∃ s, d.simpleName = .ok s
  distinct : (ds.map (·.simpleName)).Nodup

theorem Apart.nodup (h : Apart ds) : ds.Nodup := h.distinct.of_map

theorem Apart.perm (h : Apart ds) (hp : ds.Perm es) : Apart es where
  trimmed d hd := h.trimmed d (hp.mem_iff.mpr hd)
  named d hd := h.named d (hp.mem_iff.mpr hd)
  distinct := (hp.map _).nodup_iff.mp h.distinct

/-- A qualified name that is also a simple name is the simple name of its own domain. -/
theorem Apart.simpleName_of_isNamed (h : Apart ds) (hd : d ∈ ds)
    (hn : Document.isNamed name d = true) (hs : e.simpleName = .ok name) :
    d.simpleName = .ok name := by
  rcases Document.isNamed_iff.mp hn with rfl | hn
  · obtain ⟨hne, hdot⟩ := DomainType.simpleName_eq_ok hs
    exact DomainType.simpleName_of_undotted (h.trimmed d hd) hdot hne
  · exact hn

theorem Apart.eq_of_isNamed (h : Apart ds) (hd : d ∈ ds) (he : e ∈ ds)
    (hdn : Document.isNamed name d = true) (hen : Document.isNamed name e = true) : d = e := by
  refine List.inj_on_of_nodup_map h.distinct hd he ?_
  rcases Document.isNamed_iff.mp hen with hq | hs
  · rcases Document.isNamed_iff.mp hdn with hq' | hs
    · unfold DomainType.simpleName DomainType.className
      rw [hq, hq']
    · exact hs.trans (h.simpleName_of_isNamed he hen hs).symm
  · exact (h.simpleName_of_isNamed hd hdn hs).trans hs.symm

namespace Registry

variable {registry next other : Registry}

/-- A name stands for a domain of the list exactly where it is one of its names. -/
def Indexes (registry : Registry) (ds : List DomainType) : Prop :=
  ∀ name d, registry.lookup name = some d ↔ d ∈ ds ∧ Document.isNamed name d = true

theorem indexes_nil : Indexes [] [] := by
  intro name d
  simp

theorem Indexes.lookup_eq_none (hr : registry.Indexes ds) (ha : Apart (ds ++ [d]))
    (hn : Document.isNamed name d = true) : registry.lookup name = none := by
  cases hl : registry.lookup name with
  | none => rfl
  | some e =>
    obtain ⟨he, hen⟩ := (hr name e).mp hl
    have hd : d ∈ ds ++ [d] := List.mem_append_right _ (List.mem_singleton_self d)
    obtain rfl := ha.eq_of_isNamed (List.mem_append_left _ he) hd hen hn
    have hnodup := List.nodup_append.mp ha.nodup
    exact absurd rfl (hnodup.2.2 e he e (List.mem_singleton_self e))

/-- One more domain with names of its own is registered under them. -/
theorem Indexes.exists_add (hr : registry.Indexes ds) (ha : Apart (ds ++ [d])) :
    ∃ next, registry.add d = .ok next ∧ next.Indexes (ds ++ [d]) := by
  have hd : d ∈ ds ++ [d] := List.mem_append_right _ (List.mem_singleton_self d)
  obtain ⟨simple, hs⟩ := ha.named d hd
  have hl : registry.lookup d.qualifiedName = none :=
    hr.lookup_eq_none ha (Document.isNamed_iff.mpr (Or.inl rfl))
  refine ⟨addNew simple d (addNew d.qualifiedName d registry), ?_, ?_⟩
  · unfold add
    rw [hl, hs]
    rfl
  · intro name e
    rw [lookup_addNew, lookup_addNew, List.mem_append, List.mem_singleton]
    have hnamed : Document.isNamed name d = true ↔ name = d.qualifiedName ∨ name = simple := by
      rw [Document.isNamed_iff, hs, Except.ok.injEq, eq_comm, @eq_comm _ simple]
    by_cases hn : Document.isNamed name d = true
    · -- A name of the new domain belongs to no other one, so only the new entries answer it.
      rw [hr.lookup_eq_none ha hn, Option.none_or]
      have hfound : (if name = d.qualifiedName then some d else none).or
          (if name = simple then some d else none) = some d := by
        rcases hnamed.mp hn with h | h
        · rw [if_pos h]
          rfl
        · rw [if_pos h]
          split <;> rfl
      rw [hfound, Option.some.injEq]
      constructor
      · rintro rfl
        exact ⟨Or.inr rfl, hn⟩
      · rintro ⟨he, hen⟩
        exact ha.eq_of_isNamed hd (by simpa using he) hn hen
    · have hne := not_or.mp (mt hnamed.mpr hn)
      rw [if_neg hne.1, if_neg hne.2, Option.or_none, Option.or_none, hr name e]
      constructor
      · rintro ⟨he, hen⟩
        exact ⟨Or.inl he, hen⟩
      · rintro ⟨he | rfl, hen⟩
        · exact ⟨he, hen⟩
        · exact absurd hen hn

theorem Indexes.exists_addAll (hr : registry.Indexes ds) (ha : Apart (ds ++ es)) :
    ∃ next, registry.addAll es = .ok next ∧ next.Indexes (ds ++ es) := by
  induction es generalizing ds registry with
  | nil =>
    rw [List.append_nil]
    exact ⟨registry, rfl, hr⟩
  | cons e es ih =>
    rw [List.append_cons] at ha ⊢
    have hfirst : Apart (ds ++ [e]) := {
      trimmed := fun d hd => ha.trimmed d (List.mem_append_left _ hd)
      named := fun d hd => ha.named d (List.mem_append_left _ hd)
      distinct := ha.distinct.sublist ((List.sublist_append_left _ _).map _) }
    obtain ⟨mid, hm, hmid⟩ := hr.exists_add hfirst
    obtain ⟨next, hn, hnext⟩ := ih hmid ha
    refine ⟨next, ?_, hnext⟩
    unfold addAll
    rw [hm]
    exact hn

theorem exists_ofDomains (h : Apart ds) : ∃ registry, ofDomains ds = .ok registry ∧
    registry.Indexes ds := by
  have ha : Apart ([] ++ ds) := h
  exact indexes_nil.exists_addAll ha

theorem named_of_addAll (h : registry.addAll ds = .ok next) :
    ∀ d ∈ ds, ∃ s, d.simpleName = .ok s := by
  induction ds generalizing registry with
  | nil => exact List.forall_mem_nil _
  | cons d ds ih =>
    obtain ⟨mid, hm, h⟩ := bind_eq_ok.mp h
    obtain ⟨_, s, hs, _⟩ := add_eq_ok hm
    exact List.forall_mem_cons.mpr ⟨⟨s, hs⟩, ih h⟩

theorem Indexes.lookup_eq (hr : registry.Indexes ds) (ho : other.Indexes es)
    (hp : ds.Perm es) (name : String) : registry.lookup name = other.lookup name := by
  refine Option.ext fun d => ?_
  rw [hr name d, ho name d, hp.mem_iff]

end Registry

end FluentKotlin
