import FluentKotlin.Kotlin.Layout
import FluentKotlin.Proofs.Generation.Linking
import FluentKotlin.Proofs.Path
import FluentKotlin.Proofs.Store.Kept
import FluentKotlin.Proofs.Store.Name

/-! # Where files are placed

The file of a domain is placed by the package of the class of the domain and by its last simple name
alone. So the files of a pass keep apart exactly where no two domains with files have both in
common, and the root file has a place of its own.
-/

namespace FluentKotlin

open Reporting

namespace ClassName

variable {text : String} {c : ClassName} {before : List String}

theorem step_of_mem_nameSegments (hs : '/' ∉ text.toList) {s : String}
    (h : s ∈ nameSegments text) : Path.Step s := by
  obtain ⟨hne, hdot, hmem⟩ := mem_nameSegments h
  have hl : s.toList ≠ [] := fun he => hne (String.toList_eq_nil_iff.mp he)
  obtain ⟨c, hc⟩ := List.exists_mem_of_ne_nil _ hl
  exact .of_mem (fun hm => hs (hmem _ hm)) hc fun he => hdot (he ▸ hc)

theorem Shared.packagePath_eq (h : Shared text c before) (hs : '/' ∉ text.toList) :
    SourceFile.packagePath c.package = ⟨"", before⟩ := by
  have hp : SourceFile.packagePath c.package = .joinAll (before.map Path.ofString) := by
    unfold SourceFile.packagePath
    rw [h.before_eq, packageSegments]
    split
    · rfl
    · rfl
  have hj := Path.foldl_join_steps {} fun s hm => step_of_mem_nameSegments hs (h.mem_of_before s hm)
  rw [hp]
  exact hj

end ClassName

theorem slashless_append {s t : String} (hs : '/' ∉ s.toList) (ht : '/' ∉ t.toList) :
    '/' ∉ (s ++ t).toList := by
  rw [String.toList_append, List.mem_append]
  exact not_or.mpr ⟨hs, ht⟩

namespace SourceFile

variable {f : SourceFile}

theorem step_fileName (h : '/' ∉ f.className.simpleName.toList) : Path.Step f.fileName := by
  unfold fileName
  refine .of_mem (c := 'k') (slashless_append h (by decide)) ?_ (by decide)
  rw [String.toList_append]
  exact List.mem_append_right _ (by decide)

theorem outputPath_of_step (h : Path.Step f.fileName) (destination : Path) :
    f.outputPath destination =
      (destination.join (packagePath f.package)).join ⟨"", [f.fileName]⟩ := by
  unfold outputPath
  rw [Path.ofString_of_step h]

theorem getLast?_outputPath (h : Path.Step f.fileName) (destination : Path) :
    (f.outputPath destination).names.getLast? = some f.fileName := by
  rw [outputPath_of_step h]
  exact List.getLast?_concat

theorem slashless_outputPath {destination : Path} (h : destination.Slashless) (f : SourceFile) :
    (f.outputPath destination).Slashless := by
  have hp : (packagePath f.package).Slashless := by
    unfold packagePath
    split
    · exact List.forall_mem_nil _
    · exact Path.slashless_foldl_join (List.forall_mem_nil _)
  exact (h.join hp).join (Path.slashless_ofString _)

theorem outputPath_congr {g : SourceFile} (h : f.className = g.className) (destination : Path) :
    f.outputPath destination = g.outputPath destination := by
  unfold outputPath package fileName
  rw [h]

end SourceFile

def SourceFile.IsFor (f : SourceFile) (c : ClassName) : Prop :=
  f.className = Naming.topLevelClass c.package (c.simpleName ++ filePostfix)

namespace ClassName.Shared

variable {text other : String} {c c' : ClassName} {before before' : List String} {f g : SourceFile}

theorem step_fileName (h : Shared text c before) (hs : '/' ∉ text.toList) (hf : f.IsFor c) :
    Path.Step f.fileName := by
  refine SourceFile.step_fileName ?_
  rw [hf]
  exact slashless_append (step_of_mem_nameSegments hs h.simpleName_mem).slashless (by decide)

theorem outputPath_eq (h : Shared text c before) (hs : '/' ∉ text.toList) (hf : f.IsFor c)
    (destination : Path) :
    f.outputPath destination = ⟨destination.root,
      destination.names ++ before ++ [c.simpleName ++ filePostfix ++ ".kt"]⟩ := by
  rw [SourceFile.outputPath_of_step (h.step_fileName hs hf)]
  unfold SourceFile.package SourceFile.fileName
  rw [hf]
  show (destination.join (SourceFile.packagePath c.package)).join _ = _
  rw [h.packagePath_eq hs]
  rfl

/-- Files placed by classes have one place exactly where the classes agree in package and simple
name. -/
theorem outputPath_eq_iff (h : Shared text c before) (hs : '/' ∉ text.toList) (hf : f.IsFor c)
    (h' : Shared other c' before') (hs' : '/' ∉ other.toList) (hg : g.IsFor c')
    (destination : Path) :
    f.outputPath destination = g.outputPath destination ↔
      c.package = c'.package ∧ c.simpleName = c'.simpleName := by
  have hb : before = before' ↔ c.package = c'.package := by
    constructor
    · intro he
      rw [h.package, h'.package, he]
    · intro he
      rw [h.before_eq, h'.before_eq, ClassName.packageSegments, ClassName.packageSegments, he]
  rw [h.outputPath_eq hs hf, h'.outputPath_eq hs' hg, ← hb]
  simp

end ClassName.Shared

/-- The classes of the domains agree in their package and in their last simple name. -/
def DomainType.SharePlace (d e : DomainType) : Prop :=
  ∃ c c', d.className = .ok c ∧ e.className = .ok c' ∧ c.package = c'.package ∧
    c.simpleName = c'.simpleName

theorem RootFile.step_fileName {g : SourceFile} {package : String}
    (hg : g.className = Naming.topLevelClass package RootFile.name) : Path.Step g.fileName :=
  SourceFile.step_fileName (by
    rw [hg]
    show '/' ∉ RootFile.name.toList
    decide)

theorem RootFile.fileName_ne {f g : SourceFile} {c : ClassName} {package : String}
    (hf : f.IsFor c) (hg : g.className = Naming.topLevelClass package RootFile.name) :
    f.fileName ≠ g.fileName := by
  unfold SourceFile.fileName
  rw [hf, hg]
  intro he
  have hn : c.simpleName ++ filePostfix = RootFile.name := (String.append_left_inj _).mp he
  have hd : filePostfix.toList <:+ RootFile.name.toList := by
    rw [← hn, String.toList_append]
    exact List.suffix_append _ _
  revert hd
  decide

/-- The file of a domain and the root file never have one name. -/
theorem ClassName.Shared.names_ne_rootFile {text package : String} {c : ClassName}
    {before : List String} {f g : SourceFile} (h : ClassName.Shared text c before)
    (hs : '/' ∉ text.toList) (hf : f.IsFor c)
    (hg : g.className = Naming.topLevelClass package RootFile.name) (destination : Path) :
    (f.outputPath destination).names ≠ (g.outputPath destination).names := by
  intro he
  have hl := SourceFile.getLast?_outputPath (h.step_fileName hs hf) destination
  rw [he, SourceFile.getLast?_outputPath (RootFile.step_fileName hg)] at hl
  exact RootFile.fileName_ne hf hg (Option.some.inj hl).symm

namespace Pass

variable {settings : Settings} {ds : List DomainType} {d e : DomainType} {o o' : Outcome}
  {result : PassResult}

def Makes (settings : Settings) (ds : List DomainType) (d : DomainType) : Prop :=
  ∃ n file, Naming.ofDomain settings d = .ok n ∧ value (domainFile (.ofList ds) d n) = .ok file

/-- The pass makes files of both domains, and they have one place. -/
def Collide (settings : Settings) (ds : List DomainType) (d e : DomainType) : Prop :=
  Makes settings ds d ∧ Makes settings ds e ∧ d.SharePlace e

theorem isFor_of_domainFile {known : KnownDomains} {n : Naming} {file : SourceFile}
    (h : value (domainFile known d n) = .ok file) : file.IsFor n.domainClass := by
  obtain ⟨_, _, hgen⟩ := domainFile_eq_ok h
  exact (BuilderFile.generate_eq_ok hgen).1

theorem not_makes_of_failed {n : Naming} {cause : DeclError}
    (hn : Naming.ofDomain settings d = .ok n)
    (h : value (domainFile (.ofList ds) d n) = .error (.declaration cause)) :
    ¬ Makes settings ds d := by
  rintro ⟨m, file, hm, hf⟩
  obtain rfl : m = n := Except.ok.inj (hm.symm.trans hn)
  rw [h] at hf
  cases hf

/-- The files of two outcomes, if both are files, have different places. -/
def Apart (destination : Path) (o o' : Outcome) : Prop :=
  ∀ f, o.file? = some f → ∀ g, o'.file? = some g →
    f.outputPath destination ≠ g.outputPath destination

theorem apart_iff_not_collide (hd : '/' ∉ d.qualifiedName.toList)
    (he : '/' ∉ e.qualifiedName.toList) (ho : Own settings (.ofList ds) d o)
    (ho' : Own settings (.ofList ds) e o') (destination : Path) :
    Apart destination o o' ↔ ¬ Collide settings ds d e := by
  cases ho with
  | failed hn h =>
    refine iff_of_true ?_ fun hc => not_makes_of_failed hn h hc.1
    intro f hf
    cases hf
  | @made n f hn hf =>
    cases ho' with
    | failed hn' h' =>
      refine iff_of_true ?_ fun hc => not_makes_of_failed hn' h' hc.2.1
      intro _ _ g hg
      cases hg
    | @made m g hm hg =>
      have hc := (naming_eq_ok hn).2
      have hc' := (naming_eq_ok hm).2
      obtain ⟨_, hs⟩ := ClassName.exists_shared hc
      obtain ⟨_, hs'⟩ := ClassName.exists_shared hc'
      have hiff := hs.outputPath_eq_iff hd (isFor_of_domainFile hf) hs' he
        (isFor_of_domainFile hg) destination
      constructor
      · rintro ha ⟨_, _, c, c', h, h', hp, hsimple⟩
        obtain rfl : c = n.domainClass := Except.ok.inj (h.symm.trans hc)
        obtain rfl : c' = m.domainClass := Except.ok.inj (h'.symm.trans hc')
        exact ha f rfl g rfl (hiff.mpr ⟨hp, hsimple⟩)
      · intro hn' f' hf' g' hg' heq
        cases hf'
        cases hg'
        obtain ⟨hp, hsimple⟩ := hiff.mp heq
        exact hn' ⟨⟨n, f, hn, hf⟩, ⟨m, g, hm, hg⟩, _, _, hc, hc', hp, hsimple⟩

theorem apart_root {root : List Outcome} (hd : '/' ∉ d.qualifiedName.toList)
    (ho : Own settings (.ofList ds) d o) (hr : RootOwn settings (ds.filter (·.isRoot)) root)
    (ho' : o' ∈ root) (destination : Path) : Apart destination o o' := by
  intro f hf g hg heq
  cases ho with
  | failed => cases hf
  | made hn hfile =>
    cases hf
    cases hr with
    | absent => cases ho'
    | failed =>
      cases List.mem_singleton.mp ho'
      cases hg
    | made _ hroot =>
      cases List.mem_singleton.mp ho'
      cases hg
      obtain ⟨_, hs⟩ := ClassName.exists_shared (naming_eq_ok hn).2
      exact hs.names_ne_rootFile hd (isFor_of_domainFile hfile) (RootFile.generate_eq_ok hroot).1
        destination (congrArg Path.names heq)

theorem pairwise_of_rootOwn {roots : List DomainType} {root : List Outcome}
    (hr : RootOwn settings roots root) (R : Outcome → Outcome → Prop) : root.Pairwise R := by
  cases hr with
  | absent => exact .nil
  | made => exact List.pairwise_singleton _ _
  | failed => exact List.pairwise_singleton _ _

theorem nodup_outputPaths_iff {destination : Path} :
    (result.files.map (·.outputPath destination)).Nodup ↔
      result.outcomes.Pairwise (Apart destination) := by
  unfold PassResult.files
  rw [List.nodup_iff_pairwise_ne, List.pairwise_map, List.pairwise_filterMap]
  rfl

theorem pairwise_apart_iff (hs : ∀ d ∈ ds, '/' ∉ d.qualifiedName.toList)
    (hr : value (run settings ds) = .ok result) (destination : Path) :
    result.outcomes.Pairwise (Apart destination) ↔
      settings.isIgnored = true ∨ ds.Pairwise fun d e => ¬ Collide settings ds d e := by
  cases hi : settings.isIgnored with
  | true =>
    rw [run_of_ignored hi] at hr
    cases hr
    exact iff_of_true .nil (Or.inl rfl)
  | false =>
    obtain ⟨files, root, ho, hown, hroot⟩ := run_eq_ok_of_active hi hr
    have hmem : List.Forall₂ (fun d o => d ∈ ds ∧ Own settings (.ofList ds) d o) ds files :=
      (List.forall₂_and_left ds files).mpr ⟨fun _ hd => hd, hown⟩
    have hcross : ∀ o ∈ files, ∀ o' ∈ root, Apart destination o o' := by
      intro o hfile o' hroot'
      obtain ⟨d, hd, hdo⟩ := exists_mem_left hown hfile
      exact apart_root (hs d hd) hdo hroot hroot' destination
    have hpair : files.Pairwise (Apart destination) ↔
        ds.Pairwise fun d e => ¬ Collide settings ds d e := by
      refine (pairwise_iff_of_forall₂ hmem ?_).symm
      rintro d o e o' ⟨hd, hdo⟩ ⟨he, heo⟩
      exact (apart_iff_not_collide (hs d hd) (hs e he) hdo heo destination).symm
    rw [ho, List.pairwise_append, hpair]
    constructor
    · exact fun h => Or.inr h.1
    · intro h
      exact ⟨h.resolve_left Bool.false_ne_true, pairwise_of_rootOwn hroot _, hcross⟩

theorem exists_domain_or_root {f : SourceFile} (hr : value (run settings ds) = .ok result)
    (hf : f ∈ result.files) :
    (∃ d ∈ ds, ∃ c, d.className = .ok c ∧ f.IsFor c) ∨
      f.className = Naming.topLevelClass settings.rootFilePackage RootFile.name := by
  cases madeFrom_of_mem_files hr hf with
  | domain hd hn _ hg =>
    exact Or.inl ⟨_, hd, _, (naming_eq_ok hn).2, (BuilderFile.generate_eq_ok hg).1⟩
  | roots hg => exact Or.inr (RootFile.generate_eq_ok hg).1

theorem isFor_or_root {f : SourceFile} (hr : value (run settings ds) = .ok result)
    (hf : f ∈ result.files) :
    (∃ d ∈ ds, ∃ c before, ClassName.Shared d.qualifiedName c before ∧ f.IsFor c) ∨
      f.className = Naming.topLevelClass settings.rootFilePackage RootFile.name := by
  refine (exists_domain_or_root hr hf).imp_left ?_
  rintro ⟨d, hd, c, hc, hfor⟩
  obtain ⟨before, hs⟩ := ClassName.exists_shared hc
  exact ⟨d, hd, c, before, hs, hfor⟩

theorem names_ne_nil_of_mem {f : SourceFile} (hs : ∀ d ∈ ds, '/' ∉ d.qualifiedName.toList)
    (hr : value (run settings ds) = .ok result) (hf : f ∈ result.files) (destination : Path) :
    (f.outputPath destination).names ≠ [] := by
  have hstep : Path.Step f.fileName := by
    rcases isFor_or_root hr hf with ⟨d, hd, c, _, hshared, hfor⟩ | hroot
    · exact hshared.step_fileName (hs d hd) hfor
    · exact RootFile.step_fileName hroot
  intro hn
  have hl := SourceFile.getLast?_outputPath hstep destination
  rw [hn] at hl
  cases hl

theorem outputPath_eq_of_names {f g : SourceFile} (hs : ∀ d ∈ ds, '/' ∉ d.qualifiedName.toList)
    (hr : value (run settings ds) = .ok result) (hf : f ∈ result.files) (hg : g ∈ result.files)
    {destination : Path}
    (he : (f.outputPath destination).names = (g.outputPath destination).names) :
    f.outputPath destination = g.outputPath destination := by
  rcases isFor_or_root hr hf with ⟨d, hd, c, _, hshared, hfor⟩ | hfroot
  · rcases isFor_or_root hr hg with ⟨e, hmem, c', _, hshared', hfor'⟩ | hgroot
    · rw [hshared.outputPath_eq (hs d hd) hfor, hshared'.outputPath_eq (hs e hmem) hfor'] at he ⊢
      exact congrArg (Path.mk destination.root) he
    · exact absurd he (hshared.names_ne_rootFile (hs d hd) hfor hgroot destination)
  · rcases isFor_or_root hr hg with ⟨e, hmem, c', _, hshared', hfor'⟩ | hgroot
    · exact absurd he.symm (hshared'.names_ne_rootFile (hs e hmem) hfor' hfroot destination)
    · exact SourceFile.outputPath_congr (hfroot.trans hgroot.symm) destination

/-- Files with different paths have different ways, where their names are shown as they are. -/
theorem nodup_ways (hs : ∀ d ∈ ds, '/' ∉ d.qualifiedName.toList)
    (hr : value (run settings ds) = .ok result) {destination : Path}
    (hd : destination.Slashless)
    (hnames : ∀ f ∈ result.files, (f.outputPath destination).Ordinary)
    (hn : (result.files.map (·.outputPath destination)).Nodup) :
    (result.files.map fun f => FileTree.way (Request.entryNames destination f)).Nodup := by
  rw [List.nodup_iff_pairwise_ne, List.pairwise_map] at hn ⊢
  refine hn.imp_of_mem ?_
  intro f g hf hg hne hw
  unfold Request.entryNames at hw
  rw [Filing.shown_eq_self (hnames f hf), Filing.shown_eq_self (hnames g hg)] at hw
  have he := FileTree.way_injective (SourceFile.slashless_outputPath hd f)
    (SourceFile.slashless_outputPath hd g) (names_ne_nil_of_mem hs hr hf destination)
    (names_ne_nil_of_mem hs hr hg destination) hw
  exact hne (outputPath_eq_of_names hs hr hf hg he)

/-- Without slashes in the names of the domains, the files of a pass have different paths exactly
where it is skipped or makes no two files whose domains share a place. If they have, and their names
are of ordinary characters, writing them leaves each in the tree with its own text. -/
theorem outputPaths_nodup_iff (hs : ∀ d ∈ ds, '/' ∉ d.qualifiedName.toList)
    (hr : value (run settings ds) = .ok result) (destination : Path) :
    ((result.files.map (·.outputPath destination)).Nodup ↔
      settings.isIgnored = true ∨ ds.Pairwise fun d e => ¬ Collide settings ds d e) ∧
    ((result.files.map (·.outputPath destination)).Nodup → destination.Slashless →
      (∀ f ∈ result.files, (f.outputPath destination).Ordinary) →
      ∀ t t' : FileTree,
        (Request.writeFiles destination result.files : Filing _).run t = .ok (.ok (), t') →
        ∀ f ∈ result.files, ∃ text, f.text = .ok text ∧
          t'.Holds (f.outputPath destination).names text) := by
  refine ⟨nodup_outputPaths_iff.trans (pairwise_apart_iff hs hr destination), ?_⟩
  intro hn hd hnames t t' hw f hf
  obtain ⟨text, ht, hholds⟩ :=
    Request.holds_each_of_run_writeFiles hw (nodup_ways hs hr hd hnames hn) f hf
  refine ⟨text, ht, ?_⟩
  unfold Request.entryNames at hholds
  rw [Filing.shown_eq_self (hnames f hf)] at hholds
  exact hholds

def placedText : String := "domains:\n- name: A\n  root: 1\n- name: B"

theorem outputPaths_nodup_placed :
    ∃ doc result, Document.ofText placedText = .ok doc ∧
      (∀ d ∈ doc.domains, '/' ∉ d.qualifiedName.toList) ∧
      value (run packageSettings doc.domains) = .ok result ∧ result.files.length = 3 ∧
      (result.files.map (·.outputPath (.ofString "out"))).Nodup ∧
      ∀ t t' : FileTree,
        (Request.writeFiles (.ofString "out") result.files : Filing _).run t = .ok (.ok (), t') →
        ∀ f ∈ result.files, ∃ text, f.text = .ok text ∧
          t'.Holds (f.outputPath (.ofString "out")).names text := by
  have hy : yields (Document.ofText placedText) (fun doc =>
      (doc.domains.all fun d => !d.qualifiedName.toList.contains '/') &&
        decide (doc.domains.map fun d => d.simpleName.toOption).Nodup &&
        yields (value (run packageSettings doc.domains)) fun result =>
          result.files.length == 3 && result.files.all fun f =>
            (f.outputPath (.ofString "out")).names.all fun s =>
              s.toList.all fun c => !Text.isReserved c.toNat) = true := by decide +kernel
  obtain ⟨doc, h, hy⟩ := exists_of_yields hy
  simp only [Bool.and_eq_true, decide_eq_true_eq] at hy
  obtain ⟨⟨hs, hsimple⟩, hy⟩ := hy
  obtain ⟨result, hr, hy⟩ := exists_of_yields hy
  obtain ⟨hl, hnames⟩ := (Bool.and_eq_true _ _).mp hy
  have hs : ∀ d ∈ doc.domains, '/' ∉ d.qualifiedName.toList := by
    intro d hd
    simpa using List.all_eq_true.mp hs d hd
  have hnames : ∀ f ∈ result.files, (f.outputPath (.ofString "out")).Ordinary := by
    intro f hf s hm c hc
    have ho := List.all_eq_true.mp (List.all_eq_true.mp (List.all_eq_true.mp hnames f hf) s hm) c hc
    exact (Bool.not_eq_true' _).mp ho
  have hpair : doc.domains.Pairwise fun d e => ¬ Collide packageSettings doc.domains d e := by
    rw [List.nodup_iff_pairwise_ne, List.pairwise_map] at hsimple
    refine hsimple.imp ?_
    rintro d e hne ⟨_, _, c, c', hc, hc', _, hcc⟩
    refine hne ?_
    unfold DomainType.simpleName
    rw [hc, hc']
    exact congrArg some hcc
  obtain ⟨hiff, hwritten⟩ := outputPaths_nodup_iff hs hr (.ofString "out")
  have hn := hiff.mpr (Or.inr hpair)
  exact ⟨doc, result, h, hs, hr, beq_iff_eq.mp hl, hn,
    hwritten hn (Path.slashless_ofString "out") hnames⟩

/-- A domain beside one inside another class, with one simple name. -/
def collidingText : String := "domains:\n- name: x.A\n- name: x.O.A"

/-- The files of both domains have one path, wherever they are written. -/
theorem outputPaths_not_nodup_colliding :
    ∃ doc result, Document.ofText collidingText = .ok doc ∧
      value (run packageSettings doc.domains) = .ok result ∧ result.failures = [] ∧
      result.files.length = 2 ∧
      ∀ destination, ¬ (result.files.map (·.outputPath destination)).Nodup := by
  have hy : yields (Document.ofText collidingText) (fun doc =>
      yields (value (run packageSettings doc.domains)) fun result =>
        result.failures.isEmpty && result.files.map (·.className) ==
          [⟨"x", [], "ADsl", false⟩, ⟨"x", [], "ADsl", false⟩]) = true := by decide +kernel
  obtain ⟨doc, h, hy⟩ := exists_of_yields hy
  obtain ⟨result, hr, hy⟩ := exists_of_yields hy
  obtain ⟨hf, hclasses⟩ := (Bool.and_eq_true _ _).mp hy
  have hclasses := beq_iff_eq.mp hclasses
  have hl : result.files.length = 2 := by
    have := congrArg List.length hclasses
    rwa [List.length_map] at this
  refine ⟨doc, result, h, hr, List.isEmpty_iff.mp hf, hl, fun destination hn => ?_⟩
  obtain ⟨f, g, hfg⟩ := List.length_eq_two.mp hl
  rw [hfg] at hclasses hn
  obtain ⟨hcf, hcg⟩ : f.className = _ ∧ g.className = _ := by simpa using hclasses
  have he := SourceFile.outputPath_congr (hcf.trans hcg.symm) destination
  simp [he] at hn

end Pass

end FluentKotlin
