import FluentKotlin.Proofs.Generation.Linking
import FluentKotlin.Proofs.Generation.Mirrored
import FluentKotlin.Proofs.Kotlin.ImportOrder
import FluentKotlin.Proofs.Schema.Known

/-! # What accessors advertise

An accessor that leads to the builder of another domain lists the functions of that builder. The
list is made up from the properties of the domain, before any builder is. It agrees with the builder
that the pass makes later, since that has one accessor for each property, by its name.
-/

namespace FluentKotlin

open Reporting Generating

/-- The names of the functions of a builder but the last one, which makes the value. -/
def TypeDecl.offers (t : TypeDecl) : List String := t.functions.dropLast.map (·.name)

/-- The documentation of the function lists what the builder offers, in order and with repetitions.
There is none where the builder offers nothing. -/
structure FunctionDecl.Advertises (f : FunctionDecl) (t : TypeDecl) : Prop where
  silent : t.offers = [] → f.doc = none
  listed : t.offers ≠ [] → ∃ names : List String, names.Perm t.offers ∧
    names.Pairwise (Text.rank · ≤ Text.rank ·) ∧
    f.doc = some ("Available builder functions:\n" ++ String.intercalate "\n"
      (names.map fun name => "* [" ++ t.name ++ "." ++ name ++ "]"))

namespace Schema

theorem not_before_iff {s t : String} :
    (!Text.before t s) = true ↔ Text.rank s ≤ Text.rank t := by
  rw [Bool.not_eq_true', ← Bool.not_eq_true, Text.before_iff, not_lt]

theorem perm_sortedNames (names : List String) : (sortedNames names).Perm names :=
  List.mergeSort_perm _ _

theorem pairwise_sortedNames (names : List String) :
    (sortedNames names).Pairwise (Text.rank · ≤ Text.rank ·) := by
  refine (List.pairwise_mergeSort ?_ ?_ names).imp not_before_iff.mp
  · intro a b c hab hbc
    exact not_before_iff.mpr ((not_before_iff.mp hab).trans (not_before_iff.mp hbc))
  · intro a b
    rw [Bool.or_eq_true, not_before_iff, not_before_iff]
    exact le_total _ _

end Schema

namespace Pass

def BuilderFor (settings : Settings) (ds : List DomainType) (files : List SourceFile)
    (d : DomainType) (t : TypeDecl) : Prop :=
  ∃ n schemas file, file ∈ files ∧ Naming.ofDomain settings d = .ok n ∧
    value (Schema.ofDomainType (.ofList ds) d) = .ok schemas ∧
    value (BuilderFile.generate n schemas) = .ok file ∧ file.types = [t]

variable {settings : Settings} {ds : List DomainType} {files : List SourceFile} {d : DomainType}
  {t : TypeDecl} {f : FunctionDecl} {result : PassResult}

theorem Covered.exists_builderFor (hcov : Covered settings ds files) (hd : d ∈ ds) :
    ∃ t, BuilderFor settings ds files d t := by
  obtain ⟨n, file, hm, hn, hf⟩ := hcov d hd
  obtain ⟨schemas, hs, hg⟩ := domainFile_eq_ok hf
  obtain ⟨_, _, t, ht, _⟩ := BuilderFile.generate_eq_ok hg
  exact ⟨t, n, schemas, file, hm, hn, hs, hg, ht⟩

def AccessorFor (ds : List DomainType) (d : DomainType) (p : DomainProperty) (f : FunctionDecl)
    (form : Form) : Prop :=
  ∃ s, value (Schema.classify (.ofList ds) (some d.qualifiedName) p) = .ok s ∧
    s.accessor = .ok f ∧ s.form = form

theorem AccessorFor.name_eq {p : DomainProperty} {form : Form} (h : AccessorFor ds d p f form) :
    f.name = p.name := by
  obtain ⟨_, hs, hf, _⟩ := h
  obtain ⟨_, rfl, _⟩ := Schema.follows_classify hs
  exact Schema.name_of_accessor hf

theorem BuilderFor.exists_functions (h : BuilderFor settings ds files d t) :
    ∃ c accessors build, d.className = .ok c ∧ t.name = c.simpleName ++ builderPostfix ∧
      t.functions = accessors ++ [build] ∧ build.name = "build" ∧
      List.Forall₂ (fun p f => ∃ form, AccessorFor ds d p f form) d.properties accessors := by
  obtain ⟨n, schemas, file, _, hn, hs, hg, ht⟩ := h
  obtain ⟨_, _, u, hu, hb⟩ := BuilderFile.generate_eq_ok hg
  obtain rfl : t = u := List.singleton_inj.mp (ht.symm.trans hu)
  obtain ⟨accessors, build, _, hname, _, ha, hbuild, hfunctions, _⟩ :=
    BuilderFile.exists_members_of_builderType hb
  refine ⟨n.domainClass, accessors, build, (naming_eq_ok hn).2, hname, hfunctions,
    (BuilderFile.builds_buildFunction hbuild).1, ?_⟩
  refine (forall₂_comp (Schema.ofDomainType_eq_ok hs) (BuilderFile.accessors_eq_ok.mp ha)).imp ?_
  rintro p f ⟨s, hs, hf⟩
  exact ⟨_, s, hs, hf, rfl⟩

/-- A builder offers what its domain has for properties. -/
theorem BuilderFor.offers_eq (h : BuilderFor settings ds files d t) :
    t.offers = d.properties.map (·.name) := by
  obtain ⟨_, accessors, build, _, _, hfunctions, _, ha⟩ := h.exists_functions
  unfold TypeDecl.offers
  rw [hfunctions, List.dropLast_concat]
  refine (map_eq_of_forall₂ ha ?_).symm
  rintro p f ⟨_, hf⟩
  exact hf.name_eq.symm

/-- What is known of a domain when its builder is documented is what the builder offers later. -/
theorem BuilderFor.advertises (hu : (ds.map (·.qualifiedName)).Nodup) (hd : d ∈ ds)
    (h : BuilderFor settings ds files d t) {c : ClassName} (hc : d.className = .ok c)
    (hf : f.doc = Schema.builderDoc (.ofList ds) (builderClassFor c) (some d.qualifiedName)) :
    f.Advertises t := by
  have hknown : (KnownDomains.ofList ds).lookup d.qualifiedName = some d :=
    (KnownDomains.lookup_ofList_eq_some hu).mpr ⟨hd, rfl⟩
  obtain ⟨c', _, _, hc', hname, _⟩ := h.exists_functions
  obtain rfl : c = c' := Except.ok.inj (hc.symm.trans hc')
  have hoffers := h.offers_eq
  simp only [Schema.builderDoc, Option.getD_some, hknown] at hf
  constructor
  · intro hnone
    rw [hoffers, List.map_eq_nil_iff] at hnone
    rw [hf, hnone]
    rfl
  · intro hsome
    have hne : d.properties.isEmpty = false := by
      rw [hoffers] at hsome
      simpa using hsome
    refine ⟨Schema.sortedNames t.offers, Schema.perm_sortedNames _,
      Schema.pairwise_sortedNames _, ?_⟩
    rw [hf, hne, hoffers, hname]
    rfl

/-- The accessor of a property advertises the builder that its form leads to, which is that of the
domain that the property mentions. No other accessor is documented. -/
inductive Documented (settings : Settings) (ds : List DomainType) (files : List SourceFile)
    (p : DomainProperty) (f : FunctionDecl) : Form → Prop where
  | boolean : f.doc = none → Documented settings ds files p f .boolean
  | plain {type : TypeName} : f.doc = none → Documented settings ds files p f (.plain type)
  | map {key value : TypeName} : f.doc = none → Documented settings ds files p f (.map key value)
  | collection {element : TypeName} : f.doc = none →
      Documented settings ds files p f (.collection element)
  | transform {type input : TypeName} {template : Option String} : f.doc = none →
      Documented settings ds files p f (.transform type input template)
  | builder {type : TypeName} {b : ClassName} {doc : Option String} {d : DomainType}
      {t : TypeDecl} : d ∈ ds → p.declared.qualifiedName = some d.qualifiedName →
      BuilderFor settings ds files d t → f.Advertises t →
      Documented settings ds files p f (.builder type b doc)
  | group {c b : ClassName} {doc : Option String} {element : TypeRef} {d : DomainType}
      {t : TypeDecl} : p.declared.arguments = [element] → d ∈ ds →
      element.qualifiedName = some d.qualifiedName → BuilderFor settings ds files d t →
      f.Advertises t → Documented settings ds files p f (.group c b doc)
  | mapGroup {keyType : TypeName} {c b : ClassName} {doc : Option String} {key value : TypeRef}
      {d : DomainType} {t : TypeDecl} : p.declared.arguments = [key, value] → d ∈ ds →
      value.qualifiedName = some d.qualifiedName → BuilderFor settings ds files d t →
      f.Advertises t → Documented settings ds files p f (.mapGroup keyType c b doc)

theorem Covered.exists_advertised (hcov : Covered settings ds files)
    (hu : (ds.map (·.qualifiedName)).Nodup)
    (hnamed : ∀ d ∈ ds, ClassName.IsName d.qualifiedName) {r : TypeRef} (hr : r.Denoted ds)
    (hg : r.generable = true) {c : ClassName} (hc : r.className = .ok c)
    (hf : f.doc = Schema.builderDoc (.ofList ds) (builderClassFor c) r.qualifiedName) :
    ∃ d ∈ ds, r.qualifiedName = some d.qualifiedName ∧
      ∃ t, BuilderFor settings ds files d t ∧ f.Advertises t := by
  obtain ⟨d, hd, hs⟩ := hr.exists_domain hg
  obtain ⟨t, ht⟩ := hcov.exists_builderFor hd
  rw [hs.className (hnamed d hd)] at hc
  rw [hs.qualifiedName] at hf
  exact ⟨d, hd, hs.qualifiedName, t, ht, ht.advertises hu hd hc hf⟩

theorem Covered.documented (hcov : Covered settings ds files)
    (hu : (ds.map (·.qualifiedName)).Nodup)
    (hnamed : ∀ d ∈ ds, ClassName.IsName d.qualifiedName) {p : DomainProperty}
    (hp : p.Denoted ds) {form : Form} (h : Schema.FormOf (.ofList ds) p form)
    (hf : f.doc = form.doc?) : Documented settings ds files p f form := by
  cases h with
  | transform => exact .transform hf
  | withoutInput => exact .plain hf
  | builder _ hg hc _ =>
    have hgen : p.declared.generable = true := (Schema.isGenerated_iff.mp hg).2
    obtain ⟨d, hd, hq, t, ht, hadv⟩ :=
      hcov.exists_advertised hu hnamed hp.declared hgen hc hf
    exact .builder hd hq ht hadv
  | boolean => exact .boolean hf
  | scalar => exact .plain hf
  | @mapGroup key value keyType c _ _ ha hg _ hc =>
    have hgen : value.generable = true := (TypeRef.isMapGroupValue_iff.mp hg).2.1
    have hvalue : value.Denoted ds := hp.declared.arguments _ (by simp [ha])
    obtain ⟨d, hd, hq, t, ht, hadv⟩ := hcov.exists_advertised hu hnamed hvalue hgen hc hf
    exact .mapGroup ha hd hq ht hadv
  | map => exact .map hf
  | bareMap => exact .plain hf
  | @group element c _ _ _ ha hg hc =>
    have hgen : element.generable = true := (TypeRef.isGroupElement_iff.mp hg).2.1
    have helement : element.Denoted ds := hp.declared.arguments _ (by simp [ha])
    obtain ⟨d, hd, hq, t, ht, hadv⟩ := hcov.exists_advertised hu hnamed helement hgen hc hf
    exact .group ha hd hq ht hadv
  | collection => exact .collection hf
  | bareList => exact .plain hf
  | other => exact .plain hf

theorem covered_of_mem_files {file : SourceFile} (hr : value (run settings ds) = .ok result)
    (hf : result.failures = []) (hm : file ∈ result.files) :
    Covered settings ds result.files := by
  rcases run_eq_ok hr with hnone | ⟨files, root, ho, hown, _⟩
  · rw [mem_files, hnone] at hm
    cases hm
  · have mem_outcomes : ∀ o ∈ files, o ∈ result.outcomes := by
      intro o ho'
      rw [ho]
      exact List.mem_append_left _ ho'
    exact covered_of_own hown (fun f hf => mem_files.mpr (mem_outcomes _ hf))
      fun failure hfailed => not_failed hf (mem_outcomes _ hfailed)

/-- In a pass over an accepted document without failures, every accessor that leads to a builder
advertises the builder that the pass makes for the domain, and no other one is documented. This also
holds where domains lie inside other classes. -/
theorem run_advertises {text : String} {doc : Document} (hd : Document.ofText text = .ok doc)
    (hr : value (run settings doc.domains) = .ok result) (hf : result.failures = []) :
    ∀ file ∈ result.files, ∀ t ∈ file.types, ∃ d ∈ doc.domains,
      BuilderFor settings doc.domains result.files d t ∧
      ∃ accessors build, t.functions = accessors ++ [build] ∧ build.name = "build" ∧
        List.Forall₂ (fun p f => ∃ form, AccessorFor doc.domains d p f form ∧
          Documented settings doc.domains result.files p f form) d.properties accessors := by
  obtain ⟨hunique, hnamed, hdenoted⟩ := Document.closed_of_ofText hd
  intro file hfile t ht
  have hcov := covered_of_mem_files hr hf hfile
  cases madeFrom_of_mem_files hr hfile with
  | roots hg =>
    rw [(RootFile.generate_eq_ok hg).2.2.1] at ht
    cases ht
  | @domain d n schemas hmem hn hs hg =>
    obtain ⟨_, _, u, hu, _⟩ := BuilderFile.generate_eq_ok hg
    obtain rfl : t = u := by
      rw [hu] at ht
      exact List.mem_singleton.mp ht
    have hbuilder : BuilderFor settings doc.domains result.files d t :=
      ⟨n, schemas, file, hfile, hn, hs, hg, hu⟩
    obtain ⟨_, accessors, build, _, _, hfunctions, hbuild, ha⟩ := hbuilder.exists_functions
    refine ⟨d, hmem, hbuilder, accessors, build, hfunctions, hbuild, ?_⟩
    refine forall₂_imp_of_mem ha fun p hp f hform => ?_
    obtain ⟨form, haccessor⟩ := hform
    obtain ⟨s, hs, hfs, rfl⟩ := haccessor
    obtain ⟨form, rfl, hrule⟩ := Schema.follows_classify hs
    refine ⟨_, ⟨_, hs, hfs, rfl⟩, ?_⟩
    exact hcov.documented hunique hnamed (hdenoted d hmem p hp) hrule (Schema.doc_of_accessor hfs)

def advertisedText : String :=
  "domains:\n- name: A\n  listGroup: 1\n  properties:\n  - name: b\n    type: List<A>\n"
    ++ "  - name: a\n    type: B\n- name: B"

theorem run_advertises_advertisedText :
    ∃ doc result, Document.ofText advertisedText = .ok doc ∧
      value (run packageSettings doc.domains) = .ok result ∧ result.failures = [] ∧
      result.files.map (fun file => file.types.map fun t => (t.name, t.offers)) =
        [[("ADslBuilder", ["b", "a"])], [("BDslBuilder", [])]] ∧
      ∀ file ∈ result.files, ∀ t ∈ file.types, ∃ d ∈ doc.domains,
        BuilderFor packageSettings doc.domains result.files d t ∧
        ∃ accessors build, t.functions = accessors ++ [build] ∧ build.name = "build" ∧
          List.Forall₂ (fun p f => ∃ form, AccessorFor doc.domains d p f form ∧
            Documented packageSettings doc.domains result.files p f form)
            d.properties accessors := by
  have hy : yields (Document.ofText advertisedText) (fun doc =>
      yields (value (run packageSettings doc.domains)) fun result =>
        result.failures.isEmpty &&
          result.files.map (fun file => file.types.map fun t => (t.name, t.offers)) ==
            [[("ADslBuilder", ["b", "a"])], [("BDslBuilder", [])]]) = true := by
    decide +kernel
  obtain ⟨doc, hd, hy⟩ := exists_of_yields hy
  obtain ⟨result, hr, hy⟩ := exists_of_yields hy
  obtain ⟨hfailures, hoffers⟩ := (Bool.and_eq_true _ _).mp hy
  have hf : result.failures = [] := List.isEmpty_iff.mp hfailures
  exact ⟨doc, result, hd, hr, hf, beq_iff_eq.mp hoffers, run_advertises hd hr hf⟩

end Pass

end FluentKotlin
