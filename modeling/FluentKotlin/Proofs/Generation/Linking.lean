import FluentKotlin.Proofs.Generation.Isolation
import FluentKotlin.Proofs.Generation.Shape
import FluentKotlin.Proofs.Pointwise

/-! # Links between generated files

A file refers to builders of other domains by names that it makes up from the references in its
domain. Where no domain lies inside another class and no file fails, each of these names is that of
a builder, or of a container in a builder, that some file of the pass declares.
-/

namespace FluentKotlin

open Reporting Generating

/-- The types that a file declares, by the classes they make. -/
inductive SourceFile.Declares (f : SourceFile) : ClassName → TypeDecl → Prop where
  | top {t : TypeDecl} : t ∈ f.types →
      Declares f { package := f.package, enclosing := [], simpleName := t.name } t
  | nested {c : ClassName} {t u : TypeDecl} : Declares f c t → u ∈ t.nested →
      Declares f (c.nested u.name) u

/-- The class is declared as a type that builds values of the domain. -/
structure BuilderOf (files : List SourceFile) (d : DomainType) (builder : ClassName)
    (t : TypeDecl) : Prop where
  declared : ∃ f ∈ files, f.Declares builder t
  builds : ∃ c, d.className = .ok c ∧ t.Builds c

/-- The class is declared as a type inside a builder that collects for the builder. -/
structure ContainerOf (files : List SourceFile) (builder : ClassName) (t : TypeDecl)
    (container : ClassName) (u : TypeDecl) : Prop where
  nested : u ∈ t.nested ∧ container = builder.nested u.name
  declared : ∃ f ∈ files, f.Declares container u
  collects : u.Collects builder

/-- The builders and containers that the form of a property refers to are declared, and they are
those of the domain that the property mentions. -/
inductive Linked (ds : List DomainType) (files : List SourceFile) (p : DomainProperty) :
    Form → Prop where
  | boolean : Linked ds files p .boolean
  | plain {type : TypeName} : Linked ds files p (.plain type)
  | map {key value : TypeName} : Linked ds files p (.map key value)
  | collection {element : TypeName} : Linked ds files p (.collection element)
  | transform {type input : TypeName} {template : Option String} :
      Linked ds files p (.transform type input template)
  | builder {type : TypeName} {b : ClassName} {doc : Option String} {d : DomainType}
      {t : TypeDecl} : d ∈ ds → p.declared.qualifiedName = some d.qualifiedName →
      BuilderOf files d b t → Linked ds files p (.builder type b doc)
  | group {c b : ClassName} {doc : Option String} {element : TypeRef} {d : DomainType}
      {t u : TypeDecl} : p.declared.arguments = [element] → d ∈ ds →
      element.qualifiedName = some d.qualifiedName → d.className = .ok c →
      BuilderOf files d b t → u.name = Naming.groupName →
      ContainerOf files b t (groupClass b) u → Linked ds files p (.group c b doc)
  | mapGroup {keyType k : TypeName} {c b raw : ClassName} {doc : Option String}
      {key value : TypeRef} {d : DomainType} {t u : TypeDecl} :
      p.declared.arguments = [key, value] → d ∈ ds →
      value.qualifiedName = some d.qualifiedName → d.className = .ok c →
      BuilderOf files d b t → mapGroupType keyType b = .applied raw [k] false →
      u.name = Naming.mapGroupName → u.typeVariables.length = 1 → ContainerOf files b t raw u →
      Linked ds files p (.mapGroup keyType c b doc)

/-- A builder file in which all properties are linked, or a root file in which all functions are. -/
inductive LinkedFile (settings : Settings) (ds : List DomainType) (files : List SourceFile) :
    SourceFile → Prop where
  | builder {d : DomainType} {n : Naming} {schemas : List Schema} {file : SourceFile} : d ∈ ds →
      Naming.ofDomain settings d = .ok n →
      value (Schema.ofDomainType (.ofList ds) d) = .ok schemas →
      value (BuilderFile.generate n schemas) = .ok file → file.functions = [] →
      List.Forall₂ (fun p s => Linked ds files p s.form) d.properties schemas →
      LinkedFile settings ds files file
  | root {file : SourceFile} :
      value (RootFile.generate settings (ds.filter (·.isRoot))) = .ok file →
      (∀ f ∈ file.functions, ∃ d ∈ ds, d.isRoot = true ∧ ∃ c b t, d.className = .ok c ∧
        f.returns = some (.named c) ∧ f.RunsOn b ∧ BuilderOf files d b t) →
      LinkedFile settings ds files file

namespace Pass

variable {settings : Settings} {known : KnownDomains} {ds es : List DomainType} {d : DomainType}
  {o : Outcome} {os : List Outcome} {result : PassResult}

theorem own_of_domainOutcome (h : value (domainOutcome settings known d) = .ok o) :
    Own settings known d o := by
  unfold domainOutcome at h
  simp only [value_bind, value_liftM] at h
  obtain ⟨n, hn, h⟩ := bind_eq_ok.mp h
  obtain ⟨r, hr, h⟩ := bind_eq_ok.mp h
  rcases value_attempt_cases hr with ⟨file, hf, rfl⟩ | ⟨e, he, rfl⟩
  · cases h
    exact .made hn hf
  · cases h
    exact .failed hn he

theorem own_of_domainOutcomes (h : value (domainOutcomes settings known ds) = .ok os) :
    List.Forall₂ (Own settings known) ds os := by
  have ho : List.Forall₂ (fun d o => value (domainOutcome settings known d) = .ok o) ds os := by
    refine (eq_ok_iff_forall₂ (g := fun ds => value (domainOutcomes settings known ds)) rfl ?_).mp h
    intro d ds
    simp only [domainOutcomes, value_bind, value_pure]
    rfl
  exact ho.imp fun _ _ => own_of_domainOutcome

theorem rootOwn_of_rootOutcomes (h : value (rootOutcomes settings ds) = .ok os) :
    RootOwn settings ds os := by
  cases ds with
  | nil =>
    cases h
    exact .absent rfl
  | cons d ds =>
    have hne : d :: ds ≠ [] := List.cons_ne_nil d ds
    simp only [rootOutcomes, List.isEmpty_cons, Bool.false_eq_true, if_false, value_bind,
      value_pure] at h
    obtain ⟨r, hr, h⟩ := bind_eq_ok.mp h
    rcases value_attempt_cases hr with ⟨file, hf, rfl⟩ | ⟨e, he, rfl⟩
    · cases h
      exact .made hne hf
    · cases h
      exact .failed hne he

theorem exists_outcomes_of_active (hi : settings.isIgnored = false)
    (h : value (run settings ds) = .ok result) :
    ∃ files root, value (domainOutcomes settings (.ofList ds) ds) = .ok files ∧
      value (rootOutcomes settings (ds.filter (·.isRoot))) = .ok root ∧
      result = { outcomes := files ++ root } := by
  unfold run at h
  rw [hi, if_neg Bool.false_ne_true] at h
  simp only [value_bind, value_debug, ok_bind, value_sayAll, value_say, value_pure] at h
  obtain ⟨files, hf, h⟩ := bind_eq_ok.mp h
  obtain ⟨root, hr, h⟩ := bind_eq_ok.mp h
  cases h
  exact ⟨files, root, hf, hr, rfl⟩

theorem run_eq_ok_of_active (hi : settings.isIgnored = false)
    (h : value (run settings ds) = .ok result) :
    ∃ files root, result.outcomes = files ++ root ∧
      List.Forall₂ (Own settings (.ofList ds)) ds files ∧
      RootOwn settings (ds.filter (·.isRoot)) root := by
  obtain ⟨files, root, hf, hr, rfl⟩ := exists_outcomes_of_active hi h
  exact ⟨files, root, rfl, own_of_domainOutcomes hf, rootOwn_of_rootOutcomes hr⟩

theorem skipped_eq_isIgnored (h : value (run settings ds) = .ok result) :
    result.skipped = settings.isIgnored := by
  cases hi : settings.isIgnored with
  | true =>
    rw [run_of_ignored hi] at h
    cases h
    rfl
  | false =>
    obtain ⟨_, _, _, _, rfl⟩ := exists_outcomes_of_active hi h
    rfl

/-- A pass that has a result is skipped, or its outcomes are those of its domains and roots. -/
theorem run_eq_ok (h : value (run settings ds) = .ok result) :
    result.outcomes = [] ∨ ∃ files root, result.outcomes = files ++ root ∧
      List.Forall₂ (Own settings (.ofList ds)) ds files ∧
      RootOwn settings (ds.filter (·.isRoot)) root := by
  cases hi : settings.isIgnored with
  | true =>
    rw [run_of_ignored hi] at h
    cases h
    exact Or.inl rfl
  | false => exact Or.inr (run_eq_ok_of_active hi h)

theorem mem_files {file : SourceFile} : file ∈ result.files ↔ .made file ∈ result.outcomes := by
  unfold PassResult.files
  rw [List.mem_filterMap]
  constructor
  · rintro ⟨o, ho, hf⟩
    cases o with
    | made f =>
      cases hf
      exact ho
    | failed => cases hf
  · intro h
    exact ⟨_, h, rfl⟩

theorem not_failed {failure : Failure} (h : result.failures = []) :
    .failed failure ∉ result.outcomes := by
  intro hm
  have hf : failure ∈ result.failures := List.mem_filterMap.mpr ⟨_, hm, rfl⟩
  rw [h] at hf
  cases hf

theorem domainFile_eq_ok {n : Naming} {file : SourceFile}
    (h : value (domainFile known d n) = .ok file) :
    ∃ schemas, value (Schema.ofDomainType known d) = .ok schemas ∧
      value (BuilderFile.generate n schemas) = .ok file := by
  unfold domainFile at h
  simp only [value_bind, value_mapError] at h
  obtain ⟨schemas, hs, h⟩ := bind_eq_ok.mp h
  exact ⟨schemas, mapError_eq_ok.mp hs, h⟩

inductive MadeFrom (settings : Settings) (ds : List DomainType) (file : SourceFile) : Prop where
  | domain {d : DomainType} {n : Naming} {schemas : List Schema} : d ∈ ds →
      Naming.ofDomain settings d = .ok n →
      value (Schema.ofDomainType (.ofList ds) d) = .ok schemas →
      value (BuilderFile.generate n schemas) = .ok file → MadeFrom settings ds file
  | roots : value (RootFile.generate settings (ds.filter (·.isRoot))) = .ok file →
      MadeFrom settings ds file

theorem madeFrom_of_mem_files {file : SourceFile} (h : value (run settings ds) = .ok result)
    (hm : file ∈ result.files) : MadeFrom settings ds file := by
  rw [mem_files] at hm
  rcases run_eq_ok h with hnone | ⟨files, root, ho, hown, hroot⟩
  · rw [hnone] at hm
    cases hm
  · rw [ho] at hm
    rcases List.mem_append.mp hm with hm | hm
    · obtain ⟨d, hd, hmade⟩ := exists_mem_left hown hm
      cases hmade with
      | made hn hf =>
        obtain ⟨schemas, hs, hg⟩ := domainFile_eq_ok hf
        exact .domain hd hn hs hg
    · cases hroot with
      | absent => cases hm
      | made _ hg =>
        cases List.mem_singleton.mp hm
        exact .roots hg
      | failed => cases List.mem_singleton.mp hm

def Covered (settings : Settings) (ds : List DomainType) (files : List SourceFile) : Prop :=
  ∀ d ∈ ds, ∃ n file, file ∈ files ∧ Naming.ofDomain settings d = .ok n ∧
    value (domainFile (.ofList ds) d n) = .ok file

/-- The domains lie inside no other class. -/
def Outermost (ds : List DomainType) : Prop :=
  ∀ d ∈ ds, ∀ c, d.className = .ok c → c.simpleNames.length = 1

variable {files : List SourceFile}

theorem Outermost.enclosing_eq (h : Outermost ds) (hd : d ∈ ds) {c : ClassName}
    (hc : d.className = .ok c) : c.enclosing = [] := by
  have hl := h d hd c hc
  simpa [ClassName.simpleNames] using hl

theorem Covered.exists_builder (hcov : Covered settings ds files) (hout : Outermost ds)
    (hd : d ∈ ds) {c : ClassName} (hc : d.className = .ok c) :
    ∃ t, BuilderOf files d (builderClassFor c) t ∧
      ∀ k : GroupKind, k.isOffered d = true → ∃ u, u.name = k.containerName ∧
        u.typeVariables = k.typeVariables ∧
        ContainerOf files (builderClassFor c) t ((builderClassFor c).nested k.containerName) u := by
  obtain ⟨n, file, hmem, hn, hfile⟩ := hcov d hd
  obtain ⟨schemas, _, hgen⟩ := domainFile_eq_ok hfile
  obtain ⟨hclass, _, t, htypes, ht⟩ := BuilderFile.generate_eq_ok hgen
  obtain ⟨hname, hbuilds, hcontainers⟩ := BuilderFile.builderType_eq_ok ht
  obtain ⟨rfl, hnc⟩ := naming_eq_ok hn
  obtain rfl : n.domainClass = c := Except.ok.inj (hnc.symm.trans hc)
  rw [(builderClassFor_domainClass_eq_iff n).mpr (hout.enclosing_eq hd hc)]
  have hdecl : file.Declares n.builderClass t := by
    have htop : file.Declares ⟨file.package, [], t.name, false⟩ t :=
      .top (by rw [htypes]; exact List.mem_singleton_self t)
    unfold SourceFile.package at htop
    rw [hclass, hname] at htop
    exact htop
  refine ⟨t, ⟨⟨file, hmem, hdecl⟩, _, hc, hbuilds⟩, ?_⟩
  intro k ho
  obtain ⟨u, hu, marker, hcu⟩ := hcontainers k ho
  obtain ⟨huname, hvars, hcollects⟩ := GroupKind.container_eq_ok hcu
  refine ⟨u, huname, hvars, ⟨hu, by rw [huname]⟩, ⟨file, hmem, ?_⟩, hcollects⟩
  rw [← huname]
  exact .nested hdecl hu

/-- What a reference makes up a builder name for is a domain with that builder. -/
theorem Covered.exists_domain (hcov : Covered settings ds files) (hout : Outermost ds)
    (hnamed : ∀ d ∈ ds, ClassName.IsName d.qualifiedName) {r : TypeRef} (hr : r.Denoted ds)
    (hg : r.generable = true) {c : ClassName} (hc : r.className = .ok c) :
    ∃ d ∈ ds, r.StandsFor d ∧ d.className = .ok c ∧ ∃ t, BuilderOf files d (builderClassFor c) t ∧
      ∀ k : GroupKind, k.isOffered d = true → ∃ u, u.name = k.containerName ∧
        u.typeVariables = k.typeVariables ∧ ContainerOf files (builderClassFor c) t
          ((builderClassFor c).nested k.containerName) u := by
  obtain ⟨d, hd, hs⟩ := hr.exists_domain hg
  rw [hs.className (hnamed d hd)] at hc
  exact ⟨d, hd, hs, hc, hcov.exists_builder hout hd hc⟩

/-- A form that follows a rule is linked. -/
theorem Covered.linked (hcov : Covered settings ds files) (hout : Outermost ds)
    (hnamed : ∀ d ∈ ds, ClassName.IsName d.qualifiedName) {p : DomainProperty}
    (hp : p.Denoted ds) {form : Form} (h : Schema.FormOf known p form) :
    Linked ds files p form := by
  have argument : ∀ {r : TypeRef}, r ∈ p.declared.arguments → r.Denoted ds := fun hr =>
    hp.declared.arguments _ hr
  cases h with
  | transform => exact .transform
  | withoutInput => exact .plain
  | builder _ hg hc _ =>
    have hgen : p.declared.generable = true := (Schema.isGenerated_iff.mp hg).2
    obtain ⟨d, hd, hs, _, t, hb, _⟩ := hcov.exists_domain hout hnamed hp.declared hgen hc
    exact .builder hd hs.qualifiedName hb
  | boolean => exact .boolean
  | scalar => exact .plain
  | @mapGroup key value keyType c _ _ ha hg _ hc =>
    obtain ⟨_, hgen, hactive⟩ := TypeRef.isMapGroupValue_iff.mp hg
    obtain ⟨d, hd, hs, hc, t, hb, hcontainers⟩ :=
      hcov.exists_domain hout hnamed (argument (by simp [ha])) hgen hc
    have ho : GroupKind.map.isOffered d = true := by
      rw [GroupKind.isOffered, ← hs.mapGroup]
      exact hactive
    obtain ⟨u, hu, hvars, hcontainer⟩ := hcontainers .map ho
    refine .mapGroup ha hd hs.qualifiedName hc hb rfl hu ?_ hcontainer
    rw [hvars]
    rfl
  | map => exact .map
  | bareMap => exact .plain
  | @group element c _ _ _ ha hg hc =>
    obtain ⟨_, hgen, hgroup⟩ := TypeRef.isGroupElement_iff.mp hg
    obtain ⟨d, hd, hs, hc, t, hb, hcontainers⟩ :=
      hcov.exists_domain hout hnamed (argument (by simp [ha])) hgen hc
    have ho : GroupKind.list.isOffered d = true := by
      rw [GroupKind.isOffered, ← hs.listGroup]
      exact hgroup
    obtain ⟨u, hu, _, hcontainer⟩ := hcontainers .list ho
    exact .group ha hd hs.qualifiedName hc hb hu hcontainer
  | collection => exact .collection
  | bareList => exact .plain
  | other => exact .plain

theorem Covered.runsOn (hcov : Covered settings ds files) (hout : Outermost ds) (hd : d ∈ ds)
    {n : Naming} (hn : Naming.ofDomain settings d = .ok n) {f : FunctionDecl}
    (hf : RootFile.function n = .ok f) :
    ∃ c b t, d.className = .ok c ∧ f.returns = some (.named c) ∧ f.RunsOn b ∧
      BuilderOf files d b t := by
  obtain ⟨_, hc⟩ := naming_eq_ok hn
  obtain ⟨t, hb, _⟩ := hcov.exists_builder hout hd hc
  rw [(builderClassFor_domainClass_eq_iff n).mpr (hout.enclosing_eq hd hc)] at hb
  obtain ⟨hruns, hreturns⟩ := RootFile.runsOn_function hf
  exact ⟨n.domainClass, n.builderClass, t, hc, hreturns, hruns, hb⟩

theorem covered_of_own (ho : List.Forall₂ (Own settings (.ofList ds)) ds os)
    (hm : ∀ file, .made file ∈ os → file ∈ files) (hf : ∀ failure, .failed failure ∉ os) :
    Covered settings ds files := by
  intro d hd
  obtain ⟨o, hmem, hown⟩ := exists_mem_right ho hd
  cases hown with
  | @made n file hn hfile => exact ⟨n, file, hm file hmem, hn, hfile⟩
  | failed => exact absurd hmem (hf _)

theorem Covered.linkedFile_of_own (hcov : Covered settings ds files) (hout : Outermost ds)
    (hnamed : ∀ d ∈ ds, ClassName.IsName d.qualifiedName) (hd : d ∈ ds)
    (hp : ∀ p ∈ d.properties, p.Denoted ds) {file : SourceFile}
    (h : Own settings (.ofList ds) d (.made file)) : LinkedFile settings ds files file := by
  cases h with
  | made hn hf =>
    obtain ⟨schemas, hs, hgen⟩ := domainFile_eq_ok hf
    obtain ⟨_, hfun, _⟩ := BuilderFile.generate_eq_ok hgen
    refine .builder hd hn hs hgen hfun ?_
    refine forall₂_imp_of_mem (Schema.follows_ofDomainType hs) fun p hmem s hfollow => ?_
    obtain ⟨form, rfl, hform⟩ := hfollow
    exact hcov.linked hout hnamed (hp p hmem) hform

theorem Covered.linkedFile_of_rootOwn (hcov : Covered settings ds files) (hout : Outermost ds)
    {file : SourceFile} (h : RootOwn settings (ds.filter (·.isRoot)) os)
    (hm : .made file ∈ os) : LinkedFile settings ds files file := by
  cases h with
  | absent => cases hm
  | made _ hg =>
    cases List.mem_singleton.mp hm
    refine .root hg fun f hf => ?_
    obtain ⟨_, _, _, hfs⟩ := RootFile.generate_eq_ok hg
    obtain ⟨d, hd, n, hn, hfn⟩ := exists_mem_left hfs hf
    obtain ⟨hmem, hisRoot⟩ := List.mem_filter.mp hd
    exact ⟨d, hmem, hisRoot, hcov.runsOn hout hmem hn hfn⟩
  | failed => cases List.mem_singleton.mp hm

/-- In a pass over an accepted document without failures, every builder and container that a file
refers to is declared by some file of the pass. -/
theorem run_links {text : String} {doc : Document} (hd : Document.ofText text = .ok doc)
    (hout : ∀ d ∈ doc.domains, ∀ c, d.className = .ok c → c.simpleNames.length = 1)
    (hr : value (run settings doc.domains) = .ok result) (hf : result.failures = []) :
    ∀ file ∈ result.files, LinkedFile settings doc.domains result.files file := by
  obtain ⟨_, hnamed, hdenoted⟩ := Document.closed_of_ofText hd
  intro file hfile
  rcases run_eq_ok hr with hnone | ⟨files, root, ho, hown, hroot⟩
  · rw [mem_files, hnone] at hfile
    cases hfile
  · have mem_outcomes : ∀ o ∈ files, o ∈ result.outcomes := by
      intro o hm
      rw [ho]
      exact List.mem_append_left _ hm
    have hcov : Covered settings doc.domains result.files :=
      covered_of_own hown (fun f hm => mem_files.mpr (mem_outcomes _ hm))
        fun failure hm => not_failed hf (mem_outcomes _ hm)
    rw [mem_files, ho] at hfile
    rcases List.mem_append.mp hfile with hm | hm
    · obtain ⟨d, hmem, hd⟩ := exists_mem_left hown hm
      exact hcov.linkedFile_of_own hout hnamed hmem (hdenoted d hmem) hd
    · exact hcov.linkedFile_of_rootOwn hout hroot hm

/-- A domain that mentions itself as a value, in a list and in a map. -/
def linkedText : String :=
  "domains:\n- name: A\n  root: 1\n  listGroup: 1\n  mapGroup: ALL\n  properties:\n"
    ++ "  - name: a\n    type: A\n  - name: b\n    type: List<A>\n"
    ++ "  - name: c\n    type: Map<A, A>"

theorem run_links_linkedText :
    ∃ doc result, Document.ofText linkedText = .ok doc ∧
      (∀ d ∈ doc.domains, ∀ c, d.className = .ok c → c.simpleNames.length = 1) ∧
      value (run (markedSettings "M") doc.domains) = .ok result ∧ result.failures = [] ∧
      result.files.length = 2 ∧
      ∀ file ∈ result.files,
        LinkedFile (markedSettings "M") doc.domains result.files file := by
  have hy : yields (Document.ofText linkedText) (fun doc =>
      (doc.domains.all fun d => yields d.className fun c => c.simpleNames.length == 1) &&
        yields (value (run (markedSettings "M") doc.domains)) fun result =>
          result.failures.isEmpty && result.files.length == 2) = true := by decide +kernel
  obtain ⟨doc, hd, hy⟩ := exists_of_yields hy
  obtain ⟨hsimple, hy⟩ := (Bool.and_eq_true _ _).mp hy
  obtain ⟨result, hr, hy⟩ := exists_of_yields hy
  obtain ⟨hf, hl⟩ := (Bool.and_eq_true _ _).mp hy
  have hout : ∀ d ∈ doc.domains, ∀ c, d.className = .ok c → c.simpleNames.length = 1 := by
    intro d hd c hc
    obtain ⟨e, he, hle⟩ := exists_of_yields (List.all_eq_true.mp hsimple d hd)
    rw [hc] at he
    cases he
    exact beq_iff_eq.mp hle
  have hfailures : result.failures = [] := List.isEmpty_iff.mp hf
  exact ⟨doc, result, hd, hout, hr, hfailures, beq_iff_eq.mp hl,
    run_links hd hout hr hfailures⟩

end Pass

end FluentKotlin
