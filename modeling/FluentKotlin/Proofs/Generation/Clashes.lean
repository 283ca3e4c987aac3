import FluentKotlin.Proofs.Generation.Mirrored
import FluentKotlin.Proofs.Generation.Placement

/-! # Declarations that clash

Properties of one type clash by their name, and functions of one scope by their name and the types
of their parameters. The functions that every builder and every container has do not clash with any
other, since they take no parameter. So what clashes in a builder are properties of its domain with
one name, and what clashes in the root file are the functions of domains that share a place.
-/

namespace FluentKotlin

open Reporting Generating

/-- What tells the functions of one scope apart. -/
def FunctionDecl.overload (f : FunctionDecl) : String × List TypeName :=
  (f.name, f.parameters.map (·.type))

structure TypeDecl.Clashless (t : TypeDecl) : Prop where
  properties : (t.properties.map (·.name)).Nodup
  functions : (t.functions.map (·.overload)).Nodup

/-- Nothing clashes in the file, nor in its types at any depth. -/
structure SourceFile.Clashless (f : SourceFile) : Prop where
  types : ∀ c t, f.Declares c t → t.Clashless
  functions : (f.functions.map (·.overload)).Nodup

theorem FunctionDecl.overload_ne {f g : FunctionDecl} (hf : f.parameters = [])
    (hg : g.parameters ≠ []) : f.overload ≠ g.overload := by
  intro h
  have hp : f.parameters.map (·.type) = g.parameters.map (·.type) := congrArg Prod.snd h
  rw [hf] at hp
  exact hg (List.map_eq_nil_iff.mp hp.symm)

theorem TypeName.scopeOf_named_inj {b c : ClassName} :
    scopeOf (.named b) = scopeOf (.named c) ↔ b = c := by
  simp [scopeOf]

/-- Where the types inside the only type of a file have none inside them, there are no others. -/
theorem SourceFile.Declares.eq_or_mem_nested {f : SourceFile} {c : ClassName} {t u : TypeDecl}
    (h : f.Declares c u) (ht : f.types = [t]) (hn : ∀ v ∈ t.nested, v.nested = []) :
    u = t ∨ u ∈ t.nested := by
  induction h with
  | top hm =>
    rw [ht] at hm
    exact .inl (List.mem_singleton.mp hm)
  | nested _ hm ih =>
    rcases ih with rfl | hv
    · exact .inr hm
    · rw [hn _ hv] at hm
      cases hm

namespace GroupKind

variable {k : GroupKind} {n : Naming} {marker : Option ClassName} {t : TypeDecl}

/-- A container hands out its items without a parameter, even if its domain goes by that name. -/
theorem clashless_container (h : k.container n marker = .ok t) : t.Clashless ∧ t.nested = [] := by
  unfold container at h
  obtain ⟨items, _, h⟩ := bind_eq_ok.mp h
  obtain ⟨snapshot, hs, h⟩ := bind_eq_ok.mp h
  obtain ⟨add, ha, h⟩ := bind_eq_ok.mp h
  obtain ⟨_, _, _, rfl⟩ := TypeDraft.build_eq_ok h
  obtain ⟨_, _, _, rfl⟩ := FunctionDraft.build_eq_ok hs
  obtain ⟨block, hblock, _⟩ := runsOn_addFunction ha
  have hadd : add.parameters ≠ [] := by
    intro hn
    rw [hn] at hblock
    cases hblock
  refine ⟨⟨List.nodup_singleton _, ?_⟩, rfl⟩
  exact List.pairwise_pair.mpr (FunctionDecl.overload_ne rfl hadd)

end GroupKind

namespace BuilderFile

variable {n : Naming} {schemas : List Schema} {t : TypeDecl} {file : SourceFile}

theorem clashless_builderType_iff (h : value (builderType n schemas) = .ok t) :
    t.Clashless ↔ (schemas.map (·.name)).Nodup := by
  obtain ⟨functions, build, _, _, hp, hf, hb, hfunctions, _⟩ := exists_members_of_builderType h
  have hproperties : t.properties.map (·.name) = schemas.map (·.name) :=
    map_eq_of_forall₂ (stores_storedProperties hp) fun _ _ hs => hs.name
  have hnames : functions.map (·.name) = schemas.map (·.name) :=
    map_eq_of_forall₂ (sets_accessors hf) fun _ _ hs => hs.name
  constructor
  · intro hc
    exact hproperties ▸ hc.properties
  · intro hn
    refine ⟨hproperties ▸ hn, ?_⟩
    have haccessors : (functions.map (·.overload)).Nodup := by
      refine List.Nodup.of_map Prod.fst ?_
      rw [List.map_map]
      exact hnames ▸ hn
    rw [hfunctions, List.map_append, List.map_singleton, ← List.concat_eq_append]
    refine haccessors.concat fun hm => ?_
    obtain ⟨f, hmem, he⟩ := List.mem_map.mp hm
    obtain ⟨s, _, hs⟩ := exists_mem_right (sets_accessors hf) hmem
    obtain ⟨parameter, hone⟩ := Schema.exists_parameter_of_accessor hs.accessor
    refine FunctionDecl.overload_ne (builds_buildFunction hb).2.2.1 ?_ he.symm
    rw [hone]
    exact List.cons_ne_nil _ _

theorem clashless_generate_iff (h : value (generate n schemas) = .ok file) :
    file.Clashless ↔ (schemas.map (·.name)).Nodup := by
  obtain ⟨_, hf, t, ht, hb⟩ := generate_eq_ok h
  rw [← clashless_builderType_iff hb]
  constructor
  · intro hc
    exact hc.types _ t (.top (ht ▸ List.mem_singleton_self t))
  · intro hc
    obtain ⟨_, _, _, _, _, _, _, _, hnested⟩ := exists_members_of_builderType hb
    have hcontainer : ∀ u ∈ t.nested, u.Clashless ∧ u.nested = [] := by
      intro u hu
      obtain ⟨_, hk⟩ := exists_kind_of_mem_containers hnested hu
      exact GroupKind.clashless_container hk
    refine ⟨fun c u hu => ?_, by rw [hf]; exact .nil⟩
    rcases hu.eq_or_mem_nested ht fun v hv => (hcontainer v hv).2 with rfl | hm
    · exact hc
    · exact (hcontainer u hm).1

end BuilderFile

namespace RootFile

variable {settings : Settings} {ds : List DomainType} {d e : DomainType} {n m : Naming}
  {f g : FunctionDecl} {file : SourceFile}

theorem overload_function (h : function n = .ok f) :
    f.overload = (n.functionName, [.scopeOf (.named n.builderClass)]) := by
  unfold function at h
  obtain ⟨block, hb, h⟩ := bind_eq_ok.mp h
  obtain ⟨_, _, _, _, ht, rfl⟩ := ParameterDraft.build_eq_ok hb
  obtain ⟨_, hn, _, rfl⟩ := FunctionDraft.build_eq_ok h
  cases hn
  cases ht
  rfl

/-- Root functions clash where they make values by one builder, whatever classes the values have. -/
theorem overload_eq_iff (hn : Naming.ofDomain settings d = .ok n) (hf : function n = .ok f)
    (hm : Naming.ofDomain settings e = .ok m) (hg : function m = .ok g) :
    f.overload = g.overload ↔ d.SharePlace e := by
  have hc := (naming_eq_ok hn).2
  have hc' := (naming_eq_ok hm).2
  rw [overload_function hf, overload_function hg, Prod.mk.injEq, List.cons.injEq,
    and_iff_left rfl, TypeName.scopeOf_named_inj]
  constructor
  · rintro ⟨-, hb⟩
    have hp : n.builderClass.package = m.builderClass.package := congrArg ClassName.package hb
    have hs : n.builderClass.simpleName = m.builderClass.simpleName :=
      congrArg ClassName.simpleName hb
    exact ⟨_, _, hc, hc', hp, (String.append_left_inj _).mp hs⟩
  · rintro ⟨_, _, h, h', hp, hs⟩
    cases hc.symm.trans h
    cases hc'.symm.trans h'
    unfold Naming.functionName Naming.builderClass Naming.builderName Naming.typeName Naming.package
    rw [hp, hs]
    exact ⟨rfl, rfl⟩

theorem nodup_overloads_iff (h : value (generate settings ds) = .ok file) :
    (file.functions.map (·.overload)).Nodup ↔ ds.Pairwise fun d e => ¬ d.SharePlace e := by
  obtain ⟨_, _, _, hf⟩ := generate_eq_ok h
  rw [List.nodup_iff_pairwise_ne, List.pairwise_map]
  refine (pairwise_iff_of_forall₂ hf ?_).symm
  rintro d f e g ⟨_, hn, hf⟩ ⟨_, hm, hg⟩
  exact not_congr (overload_eq_iff hn hf hm hg).symm

theorem clashless_generate_iff (h : value (generate settings ds) = .ok file) :
    file.Clashless ↔ ds.Pairwise fun d e => ¬ d.SharePlace e := by
  obtain ⟨_, _, ht, _⟩ := generate_eq_ok h
  have htypes : ∀ c t, ¬ file.Declares c t := by
    intro c t hd
    induction hd with
    | top hm =>
      rw [ht] at hm
      cases hm
    | nested _ _ ih => exact ih
  rw [← nodup_overloads_iff h]
  exact ⟨SourceFile.Clashless.functions, fun hn => ⟨fun c t hd => absurd hd (htypes c t), hn⟩⟩

end RootFile

namespace Pass

variable {settings : Settings} {known : KnownDomains} {ds : List DomainType} {d : DomainType}
  {n : Naming} {file : SourceFile} {result : PassResult}

theorem clashless_domainFile_iff (h : value (domainFile known d n) = .ok file) :
    file.Clashless ↔ (d.properties.map (·.name)).Nodup := by
  obtain ⟨schemas, hs, hg⟩ := domainFile_eq_ok h
  have hnames : d.properties.map (·.name) = schemas.map (·.name) := by
    refine map_eq_of_forall₂ (Schema.follows_ofDomainType hs) ?_
    rintro p _ ⟨form, rfl, _⟩
    rfl
  rw [hnames]
  exact BuilderFile.clashless_generate_iff hg

def MakesRoot (settings : Settings) (ds : List DomainType) : Prop :=
  ∃ file, value (RootFile.generate settings (ds.filter (·.isRoot))) = .ok file

theorem clashless_outcomes_iff {files : List Outcome}
    (h : List.Forall₂ (Own settings (.ofList ds)) ds files) :
    (∀ file, .made file ∈ files → file.Clashless) ↔
      ∀ d ∈ ds, Makes settings ds d → (d.properties.map (·.name)).Nodup := by
  constructor
  · rintro hc d hd ⟨n, file, hn, hf⟩
    obtain ⟨o, ho, hown⟩ := exists_mem_right h hd
    rw [hown.unique (.made hn hf)] at ho
    exact (clashless_domainFile_iff hf).mp (hc file ho)
  · intro hn file hm
    obtain ⟨d, hd, hown⟩ := exists_mem_left h hm
    cases hown with
    | made hname hf => exact (clashless_domainFile_iff hf).mpr (hn d hd ⟨_, file, hname, hf⟩)

theorem clashless_roots_iff {root : List Outcome}
    (h : RootOwn settings (ds.filter (·.isRoot)) root) :
    (∀ file, .made file ∈ root → file.Clashless) ↔ (MakesRoot settings ds →
      (ds.filter (·.isRoot)).Pairwise fun d e => ¬ d.SharePlace e) := by
  cases h with
  | absent hnone =>
    rw [hnone]
    exact iff_of_true nofun fun _ => .nil
  | @made file _ hg =>
    have hiff := RootFile.clashless_generate_iff hg
    constructor
    · intro hc _
      exact hiff.mp (hc file (List.mem_singleton_self _))
    · intro hp other hm
      cases List.mem_singleton.mp hm
      exact hiff.mpr (hp ⟨file, hg⟩)
  | @failed e _ hg =>
    refine iff_of_true (fun _ hm => nomatch List.mem_singleton.mp hm) ?_
    rintro ⟨file, hf⟩
    cases hg.symm.trans hf

/-- Nothing clashes in the files of a pass exactly where it is skipped, or all domains with files
have properties with names of their own and no two root domains share a place in the root file. -/
theorem run_clashless_iff (h : value (run settings ds) = .ok result) :
    (∀ file ∈ result.files, file.Clashless) ↔ settings.isIgnored = true ∨
      (∀ d ∈ ds, Makes settings ds d → (d.properties.map (·.name)).Nodup) ∧
        (MakesRoot settings ds →
          (ds.filter (·.isRoot)).Pairwise fun d e => ¬ d.SharePlace e) := by
  cases hi : settings.isIgnored with
  | true =>
    rw [run_of_ignored hi] at h
    cases h
    exact iff_of_true (List.forall_mem_nil _) (.inl rfl)
  | false =>
    obtain ⟨files, root, ho, hown, hroot⟩ := run_eq_ok_of_active hi h
    rw [or_iff_right Bool.false_ne_true, ← clashless_outcomes_iff hown,
      ← clashless_roots_iff hroot]
    simp only [mem_files, ho, List.mem_append, or_imp, forall_and]

def ownNamesText : String :=
  "domains:\n- name: Items\n  root: 1\n  listGroup: 1\n  properties:\n"
    ++ "  - name: build\n    type: V"

theorem run_clashless_ownNames :
    ∃ doc result, Document.ofText ownNamesText = .ok doc ∧
      value (run packageSettings doc.domains) = .ok result ∧ result.files.length = 2 ∧
      ∀ file ∈ result.files, file.Clashless := by
  have hy : yields (Document.ofText ownNamesText) (fun doc =>
      (doc.domains.all fun d => decide (d.properties.map (·.name)).Nodup) &&
        (doc.domains.filter (·.isRoot)).length == 1 &&
        yields (value (run packageSettings doc.domains)) fun result =>
          result.files.length == 2) = true := by decide +kernel
  obtain ⟨doc, hd, hy⟩ := exists_of_yields hy
  simp only [Bool.and_eq_true, List.all_eq_true, decide_eq_true_eq, beq_iff_eq] at hy
  obtain ⟨⟨hnames, hroots⟩, hy⟩ := hy
  obtain ⟨result, hr, hl⟩ := exists_of_yields hy
  obtain ⟨root, hroot⟩ := List.length_eq_one_iff.mp hroots
  refine ⟨doc, result, hd, hr, beq_iff_eq.mp hl, ?_⟩
  refine (run_clashless_iff hr).mpr (.inr ⟨fun d hd _ => hnames d hd, fun _ => ?_⟩)
  rw [hroot]
  exact List.pairwise_singleton _ _

def clashingText : String :=
  "domains:\n- name: io.x.A\n  root: 1\n  properties:\n"
    ++ "  - name: a\n    type: String\n  - name: a\n    type: String\n"
    ++ "- name: io.x.O.A\n  root: 1"

/-- A file declares a property twice, and another one has two functions for one call. -/
theorem run_clashes :
    ∃ doc result, Document.ofText clashingText = .ok doc ∧
      value (run packageSettings doc.domains) = .ok result ∧ result.failures = [] ∧
      (∃ file ∈ result.files, ∃ t ∈ file.types, t.properties.map (·.name) = ["a", "a"] ∧
        ¬ file.Clashless) ∧
      ∃ file ∈ result.files, file.functions.map (·.name) = ["a", "a"] ∧
        ¬ (file.functions.map (·.overload)).Nodup := by
  have hy : yields (Document.ofText clashingText) (fun doc =>
      (doc.domains.filter (·.isRoot)).map (·.className.toOption) ==
          [some ⟨"io.x", [], "A", false⟩, some ⟨"io.x", ["O"], "A", false⟩] &&
        yields (value (run packageSettings doc.domains)) fun result =>
          result.failures.isEmpty &&
            (result.files.any fun file => file.types.any fun t =>
              t.properties.map (·.name) == ["a", "a"]) &&
            result.files.any fun file =>
              file.functions.map (·.name) == ["a", "a"]) = true := by decide +kernel
  obtain ⟨doc, hd, hy⟩ := exists_of_yields hy
  obtain ⟨hclasses, hy⟩ := (Bool.and_eq_true _ _).mp hy
  obtain ⟨result, hr, hy⟩ := exists_of_yields hy
  simp only [Bool.and_eq_true, List.any_eq_true, beq_iff_eq] at hy
  obtain ⟨⟨hfailures, builder, hb, t, ht, hproperties⟩, root, hroot, hfunctions⟩ := hy
  refine ⟨doc, result, hd, hr, List.isEmpty_iff.mp hfailures, ⟨builder, hb, t, ht, hproperties, ?_⟩,
    root, hroot, hfunctions, ?_⟩
  · intro hc
    have hn := (hc.types _ t (.top ht)).properties
    rw [hproperties] at hn
    revert hn
    decide
  · cases madeFrom_of_mem_files hr hroot with
    | domain _ _ _ hg =>
      rw [(BuilderFile.generate_eq_ok hg).2.1] at hfunctions
      cases hfunctions
    | roots hg =>
      rw [RootFile.nodup_overloads_iff hg]
      intro hp
      obtain ⟨d, rest, hde, hc, hrest⟩ := List.map_eq_cons_iff.mp (beq_iff_eq.mp hclasses)
      obtain ⟨e, _, rfl, hc', _⟩ := List.map_eq_cons_iff.mp hrest
      rw [hde, List.pairwise_cons] at hp
      exact hp.1 e List.mem_cons_self
        ⟨_, _, toOption_eq_some.mp hc, toOption_eq_some.mp hc', rfl, rfl⟩

end Pass

end FluentKotlin
