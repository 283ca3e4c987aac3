import FluentKotlin.Proofs.Generation.Placement
import FluentKotlin.Proofs.Store.Grounded

/-! # Files inside the destination

A file is placed below the destination by the dotted segments of its package and by its name. No
segment can be `..`, for it holds no dot. But one that begins with a slash is a path of its own,
which takes the place of the destination. So the files of a pass are inside every destination
exactly where no name that one of them is made from has such a segment.
-/

namespace FluentKotlin

open Reporting

namespace Path

variable {p destination : Path} {s t : String}

/-- The path leads from the destination down to an entry, by names alone. -/
def Inside (p destination : Path) : Prop :=
  ∃ names, names ≠ [] ∧ p = ⟨destination.root, destination.names ++ names⟩ ∧
    ∀ s ∈ names, '/' ∉ s.toList ∧ s ≠ ".."

theorem ne_parent_of_mem (hd : s.toList.count '.' ≤ 1) (h : t ∈ (ofString s).names) :
    t ≠ ".." := by
  rintro rfl
  have hsub := Text.sublist_of_mem_segments (List.mem_filter.mp h).1
  have hle := hsub.count_le '.'
  have htwo : (".." : String).toList.count '.' = 2 := by decide
  omega

theorem names_ofString_ne_nil {c : Char} (hc : c ∈ s.toList) (hslash : c ≠ '/') (hdot : c ≠ '.') :
    (ofString s).names ≠ [] := by
  obtain ⟨t, ht, hct⟩ := Text.exists_mem_segments hc hslash
  have hstep := Step.of_mem (Text.not_mem_of_mem_segments ht) hct hdot
  exact List.ne_nil_of_mem (List.mem_filter.mpr ⟨ht, hstep.isStep⟩)

theorem names_join_ne_nil {q : Path} (h : q.names ≠ []) (p : Path) : (p.join q).names ≠ [] := by
  unfold join
  split
  · exact h
  · simp [h]

end Path

namespace SourceFile

variable {f : SourceFile}

def parts (f : SourceFile) : List String :=
  (if f.package = "" then [] else Text.segments '.' f.package) ++ [f.fileName]

def relativePath (f : SourceFile) : Path := .joinAll (f.parts.map Path.ofString)

theorem relativePath_eq_join (f : SourceFile) :
    f.relativePath = (packagePath f.package).join (.ofString f.fileName) := by
  unfold relativePath parts packagePath
  rw [List.map_append, Path.joinAll, List.foldl_append]
  split
  · rfl
  · rfl

theorem outputPath_eq_join (f : SourceFile) (destination : Path) :
    f.outputPath destination = destination.join f.relativePath := by
  rw [relativePath_eq_join, ← Path.join_assoc]
  rfl

theorem isAbsolute_relativePath_iff :
    f.relativePath.isAbsolute = true ↔ ∃ s ∈ f.parts, Path.Rooted s := by
  unfold relativePath
  rw [Path.isAbsolute_joinAll]
  simp [Path.isAbsolute_ofString_iff]

theorem names_relativePath_ne_nil (f : SourceFile) : f.relativePath.names ≠ [] := by
  rw [relativePath_eq_join]
  refine Path.names_join_ne_nil (Path.names_ofString_ne_nil (c := 'k') ?_ ?_ ?_) _
  · unfold fileName
    rw [String.toList_append]
    exact List.mem_append_right _ (by decide)
  · decide
  · decide

/-- A text that a place is made from has at most the dot before the ending of the file. -/
theorem count_dot_of_mem_parts (h : '.' ∉ f.className.simpleName.toList) {s : String}
    (hs : s ∈ f.parts) : s.toList.count '.' ≤ 1 := by
  rcases List.mem_append.mp hs with hs | hs
  · split at hs
    · cases hs
    · rw [List.count_eq_zero.mpr (Text.not_mem_of_mem_segments hs)]
      exact Nat.zero_le 1
  · rw [List.mem_singleton.mp hs, fileName, String.toList_append, List.count_append,
      List.count_eq_zero.mpr h]
    decide

theorem name_of_mem_relativePath (h : '.' ∉ f.className.simpleName.toList) {t : String}
    (ht : t ∈ f.relativePath.names) : '/' ∉ t.toList ∧ t ≠ ".." := by
  obtain ⟨p, hp, htp⟩ := Path.exists_of_mem_names_joinAll ht
  obtain ⟨s, hs, rfl⟩ := List.mem_map.mp hp
  exact ⟨Path.slashless_ofString s t htp, Path.ne_parent_of_mem (count_dot_of_mem_parts h hs) htp⟩

/-- A file with a part that begins with a slash has one path, whatever the destination. -/
theorem outputPath_of_rooted (h : ∃ s ∈ f.parts, Path.Rooted s) (destination : Path) :
    f.outputPath destination = f.relativePath := by
  rw [outputPath_eq_join, Path.join_of_isAbsolute (isAbsolute_relativePath_iff.mpr h)]

/-- A file is inside every destination exactly where no part of its place begins with a slash. -/
theorem inside_iff (h : '.' ∉ f.className.simpleName.toList) :
    (∀ destination, (f.outputPath destination).Inside destination) ↔
      ∀ s ∈ f.parts, ¬ Path.Rooted s := by
  have hparts : (∀ s ∈ f.parts, ¬ Path.Rooted s) ↔ f.relativePath.isAbsolute = false := by
    rw [← Bool.not_eq_true, isAbsolute_relativePath_iff]
    simp
  rw [hparts]
  constructor
  · intro hall
    obtain ⟨names, _, he, _⟩ := hall {}
    refine Bool.eq_false_iff.mpr fun habs => ?_
    rw [outputPath_eq_join, Path.join_of_isAbsolute habs] at he
    rw [he] at habs
    cases habs
  · intro hrel destination
    refine ⟨f.relativePath.names, f.names_relativePath_ne_nil, ?_,
      fun t ht => name_of_mem_relativePath h ht⟩
    rw [outputPath_eq_join, Path.join_of_relative hrel]

end SourceFile

/-- Neither a segment of the package nor the last simple name begins with a slash. -/
def ClassName.Relative (c : ClassName) : Prop :=
  (∀ s ∈ Text.segments '.' c.package, ¬ Path.Rooted s) ∧ ¬ Path.Rooted c.simpleName

instance : DecidablePred ClassName.Relative := fun c =>
  inferInstanceAs (Decidable
    ((∀ s ∈ Text.segments '.' c.package, ¬ Path.Rooted s) ∧ ¬ Path.Rooted c.simpleName))

namespace SourceFile

variable {f : SourceFile} {c : ClassName}

theorem parts_relative_iff : (∀ s ∈ f.parts, ¬ Path.Rooted s) ↔
    (∀ s ∈ Text.segments '.' f.package, ¬ Path.Rooted s) ∧ ¬ Path.Rooted f.fileName := by
  unfold parts
  rw [List.forall_mem_append, List.forall_mem_singleton]
  refine and_congr_left fun _ => ?_
  by_cases hp : f.package = ""
  · rw [if_pos hp, hp]
    refine iff_of_true (List.forall_mem_nil _) ?_
    decide
  · rw [if_neg hp]

theorem rooted_append_iff {s : String} (hs : s ≠ "") (ending : String) :
    Path.Rooted (s ++ ending) ↔ Path.Rooted s := by
  unfold Path.Rooted
  rw [String.toList_append, List.head?_append_of_ne_nil]
  simpa using hs

theorem IsFor.inside_iff {text : String} (hc : ClassName.ofQualified text = .ok c)
    (hf : f.IsFor c) :
    (∀ destination, (f.outputPath destination).Inside destination) ↔ c.Relative := by
  obtain ⟨_, hshared⟩ := ClassName.exists_shared hc
  obtain ⟨hne, hdot, _⟩ := ClassName.mem_nameSegments hshared.simpleName_mem
  have hsimple : f.className.simpleName = c.simpleName ++ filePostfix := by rw [hf]; rfl
  have hpackage : f.package = c.package := by
    unfold package
    rw [hf]
    rfl
  have hfdot : '.' ∉ f.className.simpleName.toList := by
    rw [hsimple, String.toList_append, List.mem_append]
    exact not_or.mpr ⟨hdot, by decide⟩
  rw [SourceFile.inside_iff hfdot, parts_relative_iff, hpackage, fileName, hsimple,
    String.append_assoc, rooted_append_iff hne]
  rfl

end SourceFile

theorem RootFile.inside_iff {f : SourceFile} {package : String}
    (hf : f.className = Naming.topLevelClass package RootFile.name) :
    (∀ destination, (f.outputPath destination).Inside destination) ↔
      ∀ s ∈ Text.segments '.' package, ¬ Path.Rooted s := by
  have hsimple : f.className.simpleName = RootFile.name := by rw [hf]; rfl
  have hpackage : f.package = package := by
    unfold SourceFile.package
    rw [hf]
    rfl
  have hfdot : '.' ∉ f.className.simpleName.toList := by
    rw [hsimple]
    decide
  have hname : ¬ Path.Rooted (RootFile.name ++ ".kt") := by decide
  rw [SourceFile.inside_iff hfdot, SourceFile.parts_relative_iff, hpackage, SourceFile.fileName,
    hsimple]
  exact and_iff_left hname

namespace FileTree

theorem isInside_way_append {before after : List String} (ha : after ≠ []) :
    isInside before (way (before ++ after)) = true := by
  rcases eq_or_ne before [] with rfl | hb
  · rfl
  · rw [isInside_iff hb, way_append hb ha]
    simp only [String.toList_append]
    exact List.prefix_append _ _

end FileTree

namespace Path

variable {p destination : Path}

theorem fault?_eq_none_iff : p.fault? = none ↔ ∀ s ∈ p.names, EntryName.fault? s = none := by
  unfold fault?
  rw [← List.filterMap_eq_nil_iff]
  cases p.names.filterMap EntryName.fault? with
  | nil => simp
  | cons x xs => simp

theorem fault?_of_shown (h : (Filing.shown p).fault? = none) : p.fault? = none := by
  unfold Filing.shown at h
  cases hnone : p.fault?.isNone with
  | true => exact Option.isNone_iff_eq_none.mp hnone
  | false =>
    rw [hnone] at h
    exact h

theorem names_shown (h : p.fault? = none) :
    (Filing.shown p).names = p.names.map EntryName.shown := by
  unfold Filing.shown
  rw [h]
  rfl

theorem Inside.isInside_way (hi : p.Inside destination)
    (hf : (Filing.shown p).fault? = none) :
    FileTree.isInside (Filing.shown destination).names (FileTree.way (Filing.shown p).names) =
      true := by
  obtain ⟨names, hne, rfl, _⟩ := hi
  have hfault := fault?_of_shown hf
  have hdestination : destination.fault? = none :=
    fault?_eq_none_iff.mpr fun s hs =>
      fault?_eq_none_iff.mp hfault s (List.mem_append_left _ hs)
  rw [names_shown hfault, names_shown hdestination, List.map_append]
  exact FileTree.isInside_way_append (by simpa using hne)

end Path

namespace Pass

variable {settings : Settings} {ds : List DomainType} {result : PassResult}

theorem inside_iff_relative (hr : value (run settings ds) = .ok result) :
    (∀ f ∈ result.files, ∀ destination, (f.outputPath destination).Inside destination) ↔
      (∀ d ∈ ds, ∀ c, d.className = .ok c → (∃ f ∈ result.files, f.IsFor c) → c.Relative) ∧
        ((∃ f ∈ result.files,
            f.className = Naming.topLevelClass settings.rootFilePackage RootFile.name) →
          ∀ s ∈ Text.segments '.' settings.rootFilePackage, ¬ Path.Rooted s) := by
  constructor
  · intro hall
    refine ⟨?_, ?_⟩
    · rintro d _ c hc ⟨f, hf, hfor⟩
      exact (hfor.inside_iff hc).mp (hall f hf)
    · rintro ⟨f, hf, hroot⟩
      exact (RootFile.inside_iff hroot).mp (hall f hf)
  · rintro ⟨hdomains, hroots⟩ f hf
    rcases exists_domain_or_root hr hf with ⟨d, hd, c, hc, hfor⟩ | hroot
    · exact (hfor.inside_iff hc).mpr (hdomains d hd c hc ⟨f, hf, hfor⟩)
    · exact (RootFile.inside_iff hroot).mpr (hroots ⟨f, hf, hroot⟩)

/-- The files of a pass are inside every destination exactly where no class of a domain with a file,
and no package of a root file, has a part that begins with a slash. Writing files that are inside a
destination touches no file outside of it. -/
theorem outputPaths_inside_iff (hr : value (run settings ds) = .ok result) :
    ((∀ f ∈ result.files, ∀ destination, (f.outputPath destination).Inside destination) ↔
      (∀ d ∈ ds, ∀ c, d.className = .ok c → (∃ f ∈ result.files, f.IsFor c) → c.Relative) ∧
        ((∃ f ∈ result.files,
            f.className = Naming.topLevelClass settings.rootFilePackage RootFile.name) →
          ∀ s ∈ Text.segments '.' settings.rootFilePackage, ¬ Path.Rooted s)) ∧
    ∀ destination, (∀ f ∈ result.files, (f.outputPath destination).Inside destination) →
      ∀ t t' : FileTree,
        (Request.writeFiles destination result.files : Filing _).run t = .ok (.ok (), t') →
        ∀ w, FileTree.isInside (Filing.shown destination).names w = false →
          t'.fileAt w = t.fileAt w := by
  refine ⟨inside_iff_relative hr, ?_⟩
  intro destination hinside t t' hw w hout
  refine Request.fileAt_of_run_writeFiles hw fun f hf he => ?_
  have hin := (hinside f hf).isInside_way (Request.fault?_of_run_writeFiles hw f hf)
  rw [← he] at hout
  exact Bool.false_ne_true (hout.symm.trans hin)

def insideText : String := "domains:\n- name: io.x.A\n  root: 1"

theorem outputPaths_inside_insideText :
    ∃ doc result, Document.ofText insideText = .ok doc ∧
      value (run packageSettings doc.domains) = .ok result ∧ result.files.length = 2 ∧
      ∀ f ∈ result.files, ∀ destination, (f.outputPath destination).Inside destination := by
  have hy : yields (Document.ofText insideText) (fun doc =>
      (doc.domains.all fun d => yields d.className fun c => decide c.Relative) &&
        yields (value (run packageSettings doc.domains)) fun result =>
          result.files.length == 2) = true := by decide +kernel
  obtain ⟨doc, h, hy⟩ := exists_of_yields hy
  obtain ⟨hrelative, hy⟩ := (Bool.and_eq_true _ _).mp hy
  obtain ⟨result, hr, hl⟩ := exists_of_yields hy
  have hdomains : ∀ d ∈ doc.domains, ∀ c, d.className = .ok c →
      (∃ f ∈ result.files, f.IsFor c) → c.Relative := by
    intro d hd c hc _
    obtain ⟨e, he, hle⟩ := exists_of_yields (List.all_eq_true.mp hrelative d hd)
    obtain rfl : c = e := Except.ok.inj (hc.symm.trans he)
    exact of_decide_eq_true hle
  have hroots : ∀ s ∈ Text.segments '.' packageSettings.rootFilePackage, ¬ Path.Rooted s := by
    decide
  exact ⟨doc, result, h, hr, beq_iff_eq.mp hl,
    (outputPaths_inside_iff hr).1.mpr ⟨hdomains, fun _ => hroots⟩⟩

/-- The second segment of the package begins with a slash. -/
def slashedText : String := "domains:\n- name: io./x.A"

/-- The file of the domain is placed below the root, whatever the destination. -/
theorem outputPath_not_inside_slashedText :
    ∃ doc result f, Document.ofText slashedText = .ok doc ∧
      value (run packageSettings doc.domains) = .ok result ∧ result.files = [f] ∧
      (∀ destination, f.outputPath destination = ⟨"/", ["x", "ADsl.kt"]⟩) ∧
      ¬ (f.outputPath (.ofString "/work")).Inside (.ofString "/work") := by
  have hy : yields (Document.ofText slashedText) (fun doc =>
      yields (value (run packageSettings doc.domains)) fun result =>
        result.files.map (·.className) == [⟨"io./x", [], "ADsl", false⟩]) = true := by
    decide +kernel
  obtain ⟨doc, h, hy⟩ := exists_of_yields hy
  obtain ⟨result, hr, hclasses⟩ := exists_of_yields hy
  obtain ⟨f, hf, hclass⟩ := List.map_eq_singleton_iff.mp (beq_iff_eq.mp hclasses)
  have hparts : f.parts = ["io", "/x", "ADsl.kt"] := by
    unfold SourceFile.parts SourceFile.package SourceFile.fileName
    rw [hclass]
    decide
  have hpath : ∀ destination, f.outputPath destination = ⟨"/", ["x", "ADsl.kt"]⟩ := by
    intro destination
    rw [SourceFile.outputPath_of_rooted ⟨"/x", by simp [hparts], rfl⟩]
    unfold SourceFile.relativePath
    rw [hparts]
    decide
  refine ⟨doc, result, f, h, hr, hf, hpath, ?_⟩
  rw [hpath]
  rintro ⟨names, _, he, _⟩
  have hnames : ["x", "ADsl.kt"] = "work" :: names := congrArg Path.names he
  exact absurd (List.cons.inj hnames).1 (by decide)

end Pass

end FluentKotlin
