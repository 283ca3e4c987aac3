import FluentKotlin.Generation.Pass
import FluentKotlin.Proofs.Kotlin.Drafts
import FluentKotlin.Proofs.Kotlin.SimpleNames
import FluentKotlin.Proofs.Pointwise

/-! # The shape of generated files

What the declarations of a generated file look like: the builder with its function `build`, the
containers inside it, and the functions of the root file.
-/

namespace FluentKotlin

open Reporting

namespace Generating

variable {α : Type}

theorem value_ofDecl_eq_ok {x : Except DeclError α} {a : α} :
    value (ofDecl x) = .ok a ↔ x = .ok a := mapError_eq_ok

theorem value_ofName_eq_ok {x : Except NameError α} {a : α} :
    value (ofName x) = .ok a ↔ x = .ok a := mapError_eq_ok

end Generating

open Generating

def FunctionDecl.RunsOn (f : FunctionDecl) (c : ClassName) : Prop :=
  ∃ block, f.parameters.getLast? = some block ∧ block.name = "block" ∧
    block.type = .scopeOf (.named c)

/-- The type hands out its items, and adds items that a block on the builder makes. -/
structure TypeDecl.Collects (t : TypeDecl) (builder : ClassName) : Prop where
  items : ∃ f ∈ t.functions, f.name = "items" ∧ f.parameters = []
  add : ∃ f ∈ t.functions, f.RunsOn builder

def TypeDecl.Builds (t : TypeDecl) (c : ClassName) : Prop :=
  ∃ f ∈ t.functions, f.name = "build" ∧ f.overridden = true ∧ f.parameters = [] ∧
    f.returns = some (.named c)

namespace GroupKind

variable {k : GroupKind} {n : Naming} {marker : Option ClassName} {t : TypeDecl}

theorem runsOn_addFunction {f : FunctionDecl} (h : k.addFunction n = .ok f) :
    f.RunsOn n.builderClass := by
  unfold addFunction at h
  obtain ⟨keys, _, h⟩ := bind_eq_ok.mp h
  obtain ⟨block, hb, h⟩ := bind_eq_ok.mp h
  obtain ⟨_, _, hn, _, ht, rfl⟩ := ParameterDraft.build_eq_ok hb
  obtain ⟨_, _, _, rfl⟩ := FunctionDraft.build_eq_ok h
  exact ⟨_, List.getLast?_concat, (Option.some.inj hn).symm, (Option.some.inj ht).symm⟩

theorem container_eq_ok (h : k.container n marker = .ok t) :
    t.name = k.containerName ∧ t.typeVariables = k.typeVariables ∧
      t.Collects n.builderClass := by
  unfold container at h
  obtain ⟨items, _, h⟩ := bind_eq_ok.mp h
  obtain ⟨snapshot, hs, h⟩ := bind_eq_ok.mp h
  obtain ⟨add, ha, h⟩ := bind_eq_ok.mp h
  obtain ⟨_, hn, _, rfl⟩ := TypeDraft.build_eq_ok h
  obtain ⟨_, hsn, _, rfl⟩ := FunctionDraft.build_eq_ok hs
  refine ⟨(Option.some.inj hn).symm, rfl, ?_, ?_⟩
  · exact ⟨_, List.mem_cons_self, (Option.some.inj hsn).symm, rfl⟩
  · exact ⟨add, List.mem_cons_of_mem _ (List.mem_singleton_self _), runsOn_addFunction ha⟩

theorem container?_eq_ok {found : Option TypeDecl} (h : value (k.container? n marker) = .ok found)
    (ho : k.isOffered n.domain = true) :
    ∃ t, found = some t ∧ k.container n marker = .ok t := by
  unfold container? at h
  simp only [value_bind, value_debug, ok_bind] at h
  rw [if_pos ho] at h
  simp only [value_bind, value_debug, ok_bind, value_pure] at h
  obtain ⟨t, ht, h⟩ := bind_eq_ok.mp h
  cases h
  exact ⟨t, rfl, value_ofDecl_eq_ok.mp ht⟩

theorem container_of_mem_container? {found : Option TypeDecl}
    (h : value (k.container? n marker) = .ok found) (ht : t ∈ found.toList) :
    k.container n marker = .ok t := by
  unfold container? at h
  simp only [value_bind, value_debug, ok_bind] at h
  split at h
  · simp only [value_bind, value_debug, ok_bind, value_pure] at h
    obtain ⟨u, hu, h⟩ := bind_eq_ok.mp h
    cases h
    cases Option.mem_toList.mp ht
    exact value_ofDecl_eq_ok.mp hu
  · cases h
    cases Option.mem_toList.mp ht

end GroupKind

namespace BuilderFile

variable {n : Naming} {schemas : List Schema} {marker : Option ClassName} {t : TypeDecl}
  {file : SourceFile}

theorem exists_mem_containers {ts : List TypeDecl} (h : value (containers n marker) = .ok ts)
    (k : GroupKind) (ho : k.isOffered n.domain = true) :
    ∃ u ∈ ts, k.container n marker = .ok u := by
  unfold containers at h
  simp only [value_bind, value_pure] at h
  obtain ⟨list, hl, h⟩ := bind_eq_ok.mp h
  obtain ⟨map, hm, h⟩ := bind_eq_ok.mp h
  cases h
  cases k with
  | list =>
    obtain ⟨u, rfl, hu⟩ := GroupKind.container?_eq_ok hl ho
    exact ⟨u, List.mem_append_left _ (by simp), hu⟩
  | map =>
    obtain ⟨u, rfl, hu⟩ := GroupKind.container?_eq_ok hm ho
    exact ⟨u, List.mem_append_right _ (by simp), hu⟩

theorem exists_kind_of_mem_containers {ts : List TypeDecl}
    (h : value (containers n marker) = .ok ts) (ht : t ∈ ts) :
    ∃ k : GroupKind, k.container n marker = .ok t := by
  unfold containers at h
  simp only [value_bind, value_pure] at h
  obtain ⟨list, hl, h⟩ := bind_eq_ok.mp h
  obtain ⟨map, hm, h⟩ := bind_eq_ok.mp h
  cases h
  rcases List.mem_append.mp ht with ht | ht
  · exact ⟨.list, GroupKind.container_of_mem_container? hl ht⟩
  · exact ⟨.map, GroupKind.container_of_mem_container? hm ht⟩

theorem storedProperties_eq_ok {ps : List PropertyDecl} :
    storedProperties schemas = .ok ps ↔
      List.Forall₂ (fun s p => s.storedProperty = .ok p) schemas ps :=
  eq_ok_iff_forall₂ (by rw [storedProperties]) fun s ss => by rw [storedProperties]

theorem accessors_eq_ok {fs : List FunctionDecl} :
    accessors schemas = .ok fs ↔ List.Forall₂ (fun s f => s.accessor = .ok f) schemas fs :=
  eq_ok_iff_forall₂ (by rw [accessors]) fun s ss => by rw [accessors]

theorem scopeAliases_eq_ok {scopes : List ClassName} {as : List AliasDecl}
    (h : value (scopeAliases scopes) = .ok as) :
    List.Forall₂ (fun scope a => scopeAlias scope = .ok a) scopes as := by
  have ha : List.Forall₂ (fun scope a => value (ofDecl (scopeAlias scope)) = .ok a) scopes as := by
    refine (eq_ok_iff_forall₂ (g := fun scopes => value (scopeAliases scopes)) rfl ?_).mp h
    intro scope scopes
    simp only [scopeAliases, value_bind, value_debug, ok_bind, value_pure]
    rfl
  exact ha.imp fun _ _ => value_ofDecl_eq_ok.mp

theorem builds_buildFunction {c : ClassName} {f : FunctionDecl}
    (h : buildFunction c schemas = .ok f) :
    f.name = "build" ∧ f.overridden = true ∧ f.parameters = [] ∧ f.returns = some (.named c) := by
  obtain ⟨_, hn, _, rfl⟩ := FunctionDraft.build_eq_ok h
  exact ⟨(Option.some.inj hn).symm, rfl, rfl, rfl⟩

theorem exists_parts_of_builderType (h : value (builderType n schemas) = .ok t) :
    ∃ marker properties functions build nested,
      markerClass n.settings.marker = .ok marker ∧
      storedProperties schemas = .ok properties ∧ accessors schemas = .ok functions ∧
      buildFunction n.domainClass schemas = .ok build ∧
      value (containers n marker) = .ok nested ∧
      t = { name := n.builderName, superType := some n.contract, annotations := marker.toList,
            properties, functions := functions ++ [build], nested, modifiers := [.isPublic] } := by
  unfold builderType at h
  simp only [value_bind] at h
  obtain ⟨marker, hm, h⟩ := bind_eq_ok.mp h
  split at h
  all_goals
    simp only [value_bind, value_debug, ok_bind] at h
    obtain ⟨properties, hp, h⟩ := bind_eq_ok.mp h
    obtain ⟨functions, hf, h⟩ := bind_eq_ok.mp h
    obtain ⟨build, hb, h⟩ := bind_eq_ok.mp h
    obtain ⟨nested, hnested, h⟩ := bind_eq_ok.mp h
    obtain ⟨_, hn, _, rfl⟩ := TypeDraft.build_eq_ok (value_ofDecl_eq_ok.mp h)
    cases hn
    exact ⟨marker, properties, functions, build, nested, value_ofName_eq_ok.mp hm,
      value_ofDecl_eq_ok.mp hp, value_ofDecl_eq_ok.mp hf, value_ofDecl_eq_ok.mp hb, hnested, rfl⟩

theorem exists_members_of_builderType (h : value (builderType n schemas) = .ok t) :
    ∃ functions build marker, t.name = n.builderName ∧
      storedProperties schemas = .ok t.properties ∧ accessors schemas = .ok functions ∧
      buildFunction n.domainClass schemas = .ok build ∧ t.functions = functions ++ [build] ∧
      value (containers n marker) = .ok t.nested := by
  obtain ⟨marker, _, functions, build, _, _, hp, hf, hb, hnested, rfl⟩ :=
    exists_parts_of_builderType h
  exact ⟨functions, build, marker, rfl, hp, hf, hb, rfl, hnested⟩

/-- A builder has its name, builds the class of its domain, and has the containers that the domain
offers. -/
theorem builderType_eq_ok (h : value (builderType n schemas) = .ok t) :
    t.name = n.builderName ∧ t.Builds n.domainClass ∧
      ∀ k : GroupKind, k.isOffered n.domain = true →
        ∃ u ∈ t.nested, ∃ marker, k.container n marker = .ok u := by
  obtain ⟨functions, build, marker, hn, _, _, hb, hf, hnested⟩ := exists_members_of_builderType h
  refine ⟨hn, ⟨build, ?_, builds_buildFunction hb⟩, ?_⟩
  · rw [hf]
    exact List.mem_append_right _ (List.mem_singleton_self _)
  · intro k ho
    obtain ⟨u, hu, hc⟩ := exists_mem_containers hnested k ho
    exact ⟨u, hu, marker, hc⟩

theorem exists_draft_of_generate (h : value (generate n schemas) = .ok file) :
    ∃ builder aliases checks defaults, value (builderType n schemas) = .ok builder ∧
      value (scopeAliases n.scopes) = .ok aliases ∧
      value (checkImports n.settings.contractPackage schemas Check.all) = .ok checks ∧
      defaultImports n.package schemas = .ok defaults ∧
      FileDraft.build { className := some n.fileClass, imports := checks ++ defaults, aliases,
                        types := [builder] } = .ok file := by
  unfold generate at h
  simp only [value_bind, value_debug, ok_bind, value_pure] at h
  obtain ⟨builder, hb, h⟩ := bind_eq_ok.mp h
  obtain ⟨aliases, ha, h⟩ := bind_eq_ok.mp h
  obtain ⟨checks, hc, h⟩ := bind_eq_ok.mp h
  obtain ⟨defaults, hd, h⟩ := bind_eq_ok.mp h
  obtain ⟨f, hf, h⟩ := bind_eq_ok.mp h
  cases h
  exact ⟨builder, aliases, checks, defaults, hb, ha, hc, value_ofName_eq_ok.mp hd,
    value_ofDecl_eq_ok.mp hf⟩

theorem generate_eq_ok (h : value (generate n schemas) = .ok file) :
    file.className = n.fileClass ∧ file.functions = [] ∧
      ∃ t, file.types = [t] ∧ value (builderType n schemas) = .ok t := by
  obtain ⟨builder, _, _, _, hb, _, _, _, hf⟩ := exists_draft_of_generate h
  obtain ⟨hc, _, ht, hfun⟩ := FileDraft.build_eq_ok hf
  exact ⟨(Option.some.inj hc).symm, hfun, builder, ht, hb⟩

end BuilderFile

namespace RootFile

variable {settings : Settings} {ds : List DomainType} {n : Naming} {f : FunctionDecl}

theorem runsOn_function (h : function n = .ok f) :
    f.RunsOn n.builderClass ∧ f.returns = some (.named n.domainClass) := by
  unfold function at h
  obtain ⟨block, hb, h⟩ := bind_eq_ok.mp h
  obtain ⟨_, _, hn, _, ht, rfl⟩ := ParameterDraft.build_eq_ok hb
  obtain ⟨_, _, _, rfl⟩ := FunctionDraft.build_eq_ok h
  exact ⟨⟨_, rfl, (Option.some.inj hn).symm, (Option.some.inj ht).symm⟩, rfl⟩

theorem functions_eq_ok {fs : List FunctionDecl} (h : value (functions settings ds) = .ok fs) :
    List.Forall₂ (fun d f => ∃ n, Naming.ofDomain settings d = .ok n ∧ function n = .ok f)
      ds fs := by
  induction ds generalizing fs with
  | nil =>
    cases h
    exact .nil
  | cons d ds ih =>
    unfold functions at h
    simp only [value_bind, value_debug, ok_bind, value_pure] at h
    obtain ⟨n, hn, h⟩ := bind_eq_ok.mp h
    obtain ⟨f, hf, h⟩ := bind_eq_ok.mp h
    obtain ⟨gs, hg, h⟩ := bind_eq_ok.mp h
    cases h
    exact .cons ⟨n, value_ofName_eq_ok.mp hn, value_ofDecl_eq_ok.mp hf⟩ (ih hg)

theorem exists_draft_of_generate {file : SourceFile} (h : value (generate settings ds) = .ok file) :
    ∃ fs, value (functions settings ds) = .ok fs ∧
      FileDraft.build { className := some (Naming.topLevelClass settings.rootFilePackage name),
                        functions := fs } = .ok file := by
  unfold generate at h
  simp only [value_bind, value_debug, ok_bind, value_pure] at h
  obtain ⟨fs, hfs, h⟩ := bind_eq_ok.mp h
  obtain ⟨g, hg, h⟩ := bind_eq_ok.mp h
  cases h
  exact ⟨fs, hfs, value_ofDecl_eq_ok.mp hg⟩

theorem generate_eq_ok {file : SourceFile} (h : value (generate settings ds) = .ok file) :
    file.className = Naming.topLevelClass settings.rootFilePackage name ∧ file.aliases = [] ∧
      file.types = [] ∧ List.Forall₂
        (fun d f => ∃ n, Naming.ofDomain settings d = .ok n ∧ function n = .ok f)
        ds file.functions := by
  obtain ⟨fs, hfs, hg⟩ := exists_draft_of_generate h
  obtain ⟨hc, ha, ht, hf⟩ := FileDraft.build_eq_ok hg
  refine ⟨(Option.some.inj hc).symm, ha, ht, ?_⟩
  rw [hf]
  exact functions_eq_ok hfs

end RootFile

end FluentKotlin
