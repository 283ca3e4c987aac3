import FluentKotlin.Proofs.Generation.Mirrored
import FluentKotlin.Proofs.Generation.Placement
import FluentKotlin.Proofs.Kotlin.ImportSet

/-! # Imports that are not needed

A file needs no import of what lies in its own package or in a package that every file sees. What a
file mentions is never imported in vain. What it asks for by name is imported without this
condition: a check comes from the package of the contract, which may be that of the domain, and the
type of a default is only compared with the package of the domain.
-/

namespace FluentKotlin

open Reporting Generating

/-- What lies in this package is seen without an import by every file of the other one. -/
def SeenFrom (own package : String) : Prop := package = own ∨ package ∈ defaultPackages

instance (own package : String) : Decidable (SeenFrom own package) :=
  inferInstanceAs (Decidable (_ ∨ _))

/-- All imports of the file are of other packages, which it does not see by itself. -/
def SourceFile.ImportsNeeded (f : SourceFile) : Prop :=
  ∀ i ∈ f.imports, ¬ SeenFrom f.package i.package

/-- What a file mentions is imported only where that is needed. -/
theorem FileDraft.importsNeeded_iff {d : FileDraft} {n : ClassName} {f : SourceFile}
    (hn : d.className = some n) (h : d.build = .ok f) :
    f.ImportsNeeded ↔ ∀ i ∈ d.imports, ¬ SeenFrom n.package i.package := by
  obtain ⟨_, himports⟩ := FileDraft.imports_of_build hn h
  obtain ⟨hclass, _⟩ := FileDraft.build_eq_ok h
  obtain rfl : n = f.className := Option.some.inj (hn.symm.trans hclass)
  unfold SourceFile.ImportsNeeded SourceFile.package
  rw [himports]
  constructor
  · intro hneeded i hi
    exact hneeded i (FileDraft.mem_found.mpr (.inl hi))
  · intro hneeded i hi
    rcases FileDraft.mem_found.mp hi with hi | ⟨⟨_, hdefault, _⟩, hother⟩
    · exact hneeded i hi
    · rintro (hown | hseen)
      · exact hother hown
      · exact hdefault hseen

/-- Nothing that the file of a domain asks for by name is seen without it. -/
structure DomainType.AsksForOthers (d : DomainType) (settings : Settings) (package : String) :
    Prop where
  /-- The checks are of a package that is not seen, if some property uses one. -/
  checks : (∃ p ∈ d.properties, p.nullable = false) → ¬ SeenFrom package settings.contractPackage
  /-- A default of a nominal type of a default package is of the package of the domain itself. -/
  defaults : ∀ p ∈ d.properties, ∀ hint, p.default = some hint → hint.valueType.kind = .nominal →
    ∀ c, hint.valueType.className = .ok c → c.package ∈ defaultPackages → c.package = package

namespace BuilderFile

variable {n : Naming} {schemas : List Schema} {file : SourceFile}

theorem checkImports_needed_iff {package own : String} {imports : List Import}
    (h : value (checkImports package schemas Check.all) = .ok imports) :
    (∀ i ∈ imports, ¬ SeenFrom own i.package) ↔
      ((∃ s ∈ schemas, s.nullable = false) → ¬ SeenFrom own package) := by
  constructor
  · rintro hneeded ⟨s, hs, hnull⟩
    have hall : s.form.demand ∈ Check.all := by
      cases s.form.demand <;> decide
    exact hneeded _ ((mem_checkImports h).mpr ⟨_, hall, ⟨s, hs, hnull, rfl⟩, rfl⟩)
  · intro hneeded i hi
    obtain ⟨c, _, ⟨s, hs, hnull, _⟩, rfl⟩ := (mem_checkImports h).mp hi
    exact hneeded ⟨s, hs, hnull⟩

theorem defaultImports_needed_iff {own : String} {imports : List Import}
    (h : defaultImports own schemas = .ok imports) :
    (∀ i ∈ imports, ¬ SeenFrom own i.package) ↔
      ∀ s ∈ schemas, ∀ hint, s.default = some hint → hint.valueType.kind = .nominal →
        ∀ c, hint.valueType.className = .ok c → c.package ∈ defaultPackages → c.package = own := by
  constructor
  · intro hneeded s hs hint hd hk c hc hdefault
    by_contra hother
    have hne : c.package ≠ "" := by
      intro he
      rw [he] at hdefault
      revert hdefault
      decide
    exact hneeded (.ofClass c)
      ((mem_defaultImports h).mpr ⟨s, hs, hint, c, hd, hk, hc, hne, hother, rfl⟩) (.inr hdefault)
  · intro hneeded i hi
    obtain ⟨s, hs, hint, c, hd, hk, hc, _, hother, rfl⟩ := (mem_defaultImports h).mp hi
    rintro (hown | hdefault)
    · exact hother hown
    · exact hother (hneeded s hs hint hd hk c hc hdefault)

theorem importsNeeded_generate_iff (h : value (generate n schemas) = .ok file) :
    file.ImportsNeeded ↔
      ((∃ s ∈ schemas, s.nullable = false) → ¬ SeenFrom n.package n.settings.contractPackage) ∧
      ∀ s ∈ schemas, ∀ hint, s.default = some hint → hint.valueType.kind = .nominal →
        ∀ c, hint.valueType.className = .ok c → c.package ∈ defaultPackages →
          c.package = n.package := by
  obtain ⟨_, _, checks, defaults, _, _, hc, hd, hf⟩ := exists_draft_of_generate h
  have hpackage : n.fileClass.package = n.package := rfl
  rw [FileDraft.importsNeeded_iff rfl hf, List.forall_mem_append, hpackage,
    checkImports_needed_iff hc, defaultImports_needed_iff hd]

end BuilderFile

namespace Pass

variable {settings : Settings} {known : KnownDomains} {ds : List DomainType} {d : DomainType}
  {n : Naming} {file : SourceFile} {result : PassResult}

theorem importsNeeded_domainFile_iff (hn : Naming.ofDomain settings d = .ok n)
    (h : value (domainFile known d n) = .ok file) :
    file.ImportsNeeded ↔ d.AsksForOthers settings n.package := by
  obtain ⟨schemas, hs, hg⟩ := domainFile_eq_ok h
  have hsettings : n.settings = settings := by
    have hnaming := naming_of_className settings (naming_eq_ok hn).2
    exact congrArg Naming.settings (Except.ok.inj (hn.symm.trans hnaming))
  have hfollow := Schema.follows_ofDomainType hs
  have hnullable : (∃ s ∈ schemas, s.nullable = false) ↔
      ∃ p ∈ d.properties, p.nullable = false := by
    refine exists_mem_iff_of_forall₂ hfollow ?_
    rintro p _ ⟨form, rfl, _⟩
    exact Iff.rfl
  rw [BuilderFile.importsNeeded_generate_iff hg, hnullable, hsettings,
    forall_mem_iff_of_forall₂ hfollow]
  · exact ⟨fun hboth => ⟨hboth.1, hboth.2⟩, fun hasks => ⟨hasks.checks, hasks.defaults⟩⟩
  · rintro p _ ⟨form, rfl, _⟩
    exact Iff.rfl

theorem importsNeeded_rootFile (h : value (RootFile.generate settings ds) = .ok file) :
    file.ImportsNeeded := by
  obtain ⟨fs, _, hf⟩ := RootFile.exists_draft_of_generate h
  exact (FileDraft.importsNeeded_iff rfl hf).mpr (List.forall_mem_nil _)

/-- All imports of a pass are needed exactly where it is skipped, or every domain with a file asks
only for what its file does not see. -/
theorem run_imports_needed_iff (h : value (run settings ds) = .ok result) :
    (∀ file ∈ result.files, file.ImportsNeeded) ↔ settings.isIgnored = true ∨
      ∀ d ∈ ds, Makes settings ds d →
        ∀ c, d.className = .ok c → d.AsksForOthers settings c.package := by
  cases hi : settings.isIgnored with
  | true =>
    rw [run_of_ignored hi] at h
    cases h
    exact iff_of_true (List.forall_mem_nil _) (.inl rfl)
  | false =>
    obtain ⟨files, root, ho, hown, hroot⟩ := run_eq_ok_of_active hi h
    rw [or_iff_right Bool.false_ne_true]
    constructor
    · rintro hneeded d hd ⟨n, file, hn, hf⟩ c hc
      obtain ⟨o, hm, hmade⟩ := exists_mem_right hown hd
      rw [hmade.unique (.made hn hf)] at hm
      have hfile : file ∈ result.files := by
        rw [mem_files, ho]
        exact List.mem_append_left _ hm
      obtain rfl : n.domainClass = c := Except.ok.inj ((naming_eq_ok hn).2.symm.trans hc)
      exact (importsNeeded_domainFile_iff hn hf).mp (hneeded file hfile)
    · intro hasks file hfile
      rw [mem_files, ho] at hfile
      rcases List.mem_append.mp hfile with hm | hm
      · obtain ⟨d, hd, hown⟩ := exists_mem_left hown hm
        cases hown with
        | made hn hf =>
          exact (importsNeeded_domainFile_iff hn hf).mpr
            (hasks d hd ⟨_, file, hn, hf⟩ _ (naming_eq_ok hn).2)
      · cases hroot with
        | absent => cases hm
        | made _ hg =>
          cases List.mem_singleton.mp hm
          exact importsNeeded_rootFile hg
        | failed => cases List.mem_singleton.mp hm

def unseenText : String :=
  "domains:\n- name: io.x.A\n  properties:\n  - name: v\n    type: io.z.V\n    default: V()"

theorem run_imports_needed_unseenText :
    ∃ doc result, Document.ofText unseenText = .ok doc ∧
      value (run packageSettings doc.domains) = .ok result ∧
      result.files.map (fun file => (file.package, file.imports)) =
        [("io.x", [⟨"io.y", "DslBuilder"⟩, ⟨"io.y", "vRequireNotNull"⟩, ⟨"io.z", "V"⟩])] ∧
      (packageSettings.isIgnored = true ∨ ∀ d ∈ doc.domains, Makes packageSettings doc.domains d →
        ∀ c, d.className = .ok c → d.AsksForOthers packageSettings c.package) := by
  have hy : yields (Document.ofText unseenText) (fun doc =>
      yields (value (run packageSettings doc.domains)) fun result =>
        result.files.map (fun file => (file.package, file.imports)) ==
          [("io.x", [⟨"io.y", "DslBuilder"⟩, ⟨"io.y", "vRequireNotNull"⟩, ⟨"io.z", "V"⟩])]) =
      true := by
    decide +kernel
  obtain ⟨doc, hd, hy⟩ := exists_of_yields hy
  obtain ⟨result, hr, hfiles⟩ := exists_of_yields hy
  have hfiles := beq_iff_eq.mp hfiles
  refine ⟨doc, result, hd, hr, hfiles, (run_imports_needed_iff hr).mp ?_⟩
  intro file hfile
  have hmem := List.mem_map_of_mem (f := fun file => (file.package, file.imports)) hfile
  rw [hfiles, List.mem_singleton, Prod.mk.injEq] at hmem
  unfold SourceFile.ImportsNeeded
  rw [hmem.1, hmem.2]
  decide

def ownOptions : Entries :=
  [(.text "projectRootClasspath", .scalar (.text "io.x")),
    (.text "dslBuilderClasspath", .scalar (.text "io.x"))]

def ownSettings : Settings := { projectRoot := "io.x", contractPackage := "io.x" }

/-- A domain with a default whose class every file sees. -/
def seenText : String :=
  "domains:\n- name: io.x.A\n  properties:\n"
    ++ "  - name: tags\n    type: kotlin.collections.Set<String>\n    default: emptySet()"

/-- The file imports the check from its own package, and the class of the default from a default
package. -/
theorem run_imports_seen :
    ∃ doc result, Document.ofText seenText = .ok doc ∧
      Settings.ofOptions ownOptions = .ok ownSettings ∧
      value (run ownSettings doc.domains) = .ok result ∧ result.failures = [] ∧
      ∃ file ∈ result.files, file.package = "io.x" ∧
        file.imports = [⟨"io.x", "vRequireNotNull"⟩, ⟨"kotlin.collections", "Set"⟩] ∧
        ∀ i ∈ file.imports, SeenFrom file.package i.package := by
  have hy : yields (Document.ofText seenText) (fun doc =>
      yields (value (run ownSettings doc.domains)) fun result =>
        result.failures.isEmpty && result.files.any fun file =>
          file.package == "io.x" &&
            file.imports ==
              [⟨"io.x", "vRequireNotNull"⟩, ⟨"kotlin.collections", "Set"⟩]) = true := by
    decide +kernel
  obtain ⟨doc, hd, hy⟩ := exists_of_yields hy
  obtain ⟨result, hr, hy⟩ := exists_of_yields hy
  simp only [Bool.and_eq_true, List.any_eq_true, beq_iff_eq] at hy
  obtain ⟨hfailures, file, hfile, hpackage, himports⟩ := hy
  refine ⟨doc, result, hd, rfl, hr, List.isEmpty_iff.mp hfailures, file, hfile, hpackage,
    himports, ?_⟩
  rw [hpackage, himports]
  decide

end Pass

end FluentKotlin
