import FluentKotlin.Proofs.Kotlin.ImportOrder
import FluentKotlin.Proofs.Kotlin.Mention

/-! # The set of imports

A file imports what it asks for by name and the outermost classes of other packages that it
mentions, except for those that every file sees. These imports are in conflict where two of them
have one name, or where one of them has the name of a mentioned class of the package itself. A file
whose imports are in conflict is not built, and every other one has exactly these imports.
-/

namespace FluentKotlin

namespace FileDraft

variable {d e : FileDraft} {n : ClassName} {package : String} {i j : Import}

/-- What stands for a mentioned class in an import: its package and its outermost name. No import
stands for a class of a default package or of no package. -/
def RefersTo (d : FileDraft) (i : Import) : Prop :=
  i.package ≠ "" ∧ i.package ∉ defaultPackages ∧
    ∃ c, d.Mentions c ∧ i = ⟨c.topLevel.package, c.topLevel.simpleName⟩

/-- What a file of the package has to import. -/
def Needs (d : FileDraft) (package : String) (i : Import) : Prop :=
  i ∈ d.imports ∨ (d.RefersTo i ∧ i.package ≠ package)

inductive Conflicting (d : FileDraft) (package : String) : Prop where
  | twoPackages {i j : Import} : d.Needs package i → d.Needs package j → i.name = j.name →
      i.package ≠ j.package → Conflicting d package
  | shadowing {i j : Import} : d.Needs package i → i.package ≠ package → d.RefersTo j →
      j.package = package → i.name = j.name → Conflicting d package

theorem mem_ofClass_iff :
    (∃ c ∈ d.references, Import.needsPackage c = true ∧ i = Import.ofClass c) ↔ d.RefersTo i := by
  unfold RefersTo
  constructor
  · rintro ⟨c, hc, hp, rfl⟩
    have hp' : c.package ≠ "" ∧ c.package ∉ defaultPackages := by
      simpa [Import.needsPackage] using hp
    exact ⟨hp'.1, hp'.2, c, mem_references.mp hc, rfl⟩
  · rintro ⟨he, hd, c, hc, rfl⟩
    refine ⟨c, mem_references.mpr hc, ?_, rfl⟩
    simpa [Import.needsPackage] using ⟨he, hd⟩

theorem mem_foreign :
    i ∈ Import.foreign package d.references ↔ d.RefersTo i ∧ i.package ≠ package := by
  unfold Import.foreign
  simp only [List.mem_map, List.mem_filter, bne_iff_ne]
  constructor
  · rintro ⟨c, ⟨⟨hc, hp⟩, hn⟩, rfl⟩
    exact ⟨mem_ofClass_iff.mp ⟨c, hc, hp, rfl⟩, hn⟩
  · rintro ⟨hm, hn⟩
    obtain ⟨c, hc, hp, rfl⟩ := mem_ofClass_iff.mpr hm
    exact ⟨c, ⟨⟨hc, hp⟩, hn⟩, rfl⟩

theorem mem_localNames {s : String} :
    s ∈ Import.localNames package d.references ↔
      ∃ j, d.RefersTo j ∧ j.package = package ∧ s = j.name := by
  unfold Import.localNames
  simp only [List.mem_map, List.mem_filter, beq_iff_eq]
  constructor
  · rintro ⟨c, ⟨⟨hc, hp⟩, hn⟩, rfl⟩
    exact ⟨Import.ofClass c, mem_ofClass_iff.mp ⟨c, hc, hp, rfl⟩, hn, rfl⟩
  · rintro ⟨j, hm, hn, rfl⟩
    obtain ⟨c, hc, hp, rfl⟩ := mem_ofClass_iff.mpr hm
    exact ⟨c, ⟨⟨hc, hp⟩, hn⟩, rfl⟩

def found (d : FileDraft) (package : String) : List Import :=
  Import.ordered (d.imports ++ Import.foreign package d.references)

theorem mem_found : i ∈ d.found package ↔ d.Needs package i := by
  unfold found Needs
  rw [Import.mem_ordered, List.mem_append, mem_foreign]

theorem pairwise_found (d : FileDraft) (package : String) :
    (d.found package).Pairwise (·.before ·) :=
  (Import.pairwise_ordered _).imp Import.before_iff.mpr

theorem nodup_found (d : FileDraft) (package : String) : (d.found package).Nodup :=
  (Import.pairwise_ordered _).imp fun hlt he => (congrArg Import.rank he).not_lt hlt

/-- The search for a conflict in one go over the imports misses none. -/
theorem conflicting_iff :
    d.Conflicting package ↔
      Import.firstConflict? package (Import.localNames package d.references) []
        (d.found package) ≠ none := by
  rw [Ne, Import.firstConflict?_eq_none_iff, List.nodup_map_iff_inj_on (nodup_found d package)]
  simp only [mem_found, mem_localNames]
  constructor
  · rintro (⟨hi, hj, hn, hp⟩ | ⟨hi, hip, hj, hjp, hn⟩) ⟨_, hinj, hlocal⟩
    · exact hp (congrArg Import.package (hinj _ hi _ hj hn))
    · exact hlocal _ hi hip ⟨_, hj, hjp, hn⟩
  · intro h
    by_contra hno
    refine h ⟨by simp, ?_, ?_⟩
    · intro i hi j hj hn
      by_contra hne
      refine hno (.twoPackages hi hj hn fun hp => hne ?_)
      cases i
      cases j
      cases hn
      cases hp
      rfl
    · rintro i hi hip ⟨j, hj, hjp, hn⟩
      exact hno (.shadowing hi hip hj hjp hn)

theorem imports_of_build (hn : d.className = some n) {f : SourceFile} (h : d.build = .ok f) :
    ¬ d.Conflicting n.package ∧ f.imports = d.found n.package := by
  obtain ⟨imports, hi, himports, _⟩ := exists_imports_of_build hn h
  obtain ⟨rfl, hnone⟩ := Import.compute_eq_ok.mp hi
  exact ⟨fun hc => conflicting_iff.mp hc hnone, himports⟩

theorem exists_build_of_not_conflicting (hn : d.className = some n)
    (h : ¬ d.Conflicting n.package) : ∃ f, d.build = .ok f := by
  have hnone := not_ne_iff.mp (conflicting_iff.not.mp h)
  have hi := Import.compute_eq_ok.mpr ⟨rfl, hnone⟩
  rw [build_of_className hn, computeImports, hi]
  exact ⟨_, rfl⟩

structure Rearranged (d e : FileDraft) : Prop where
  className : d.className = e.className
  imports : d.imports.Perm e.imports
  aliases : d.aliases.Perm e.aliases
  types : d.types.Perm e.types
  functions : d.functions.Perm e.functions

theorem Rearranged.mem_references (h : Rearranged d e) (c : ClassName) :
    c ∈ d.references ↔ c ∈ e.references := by
  unfold references
  simp only [List.mem_append, List.mem_flatMap, h.aliases.mem_iff, h.types.mem_iff,
    h.functions.mem_iff]

theorem Rearranged.computeImports_eq (h : Rearranged d e) (package : String) :
    d.computeImports package = e.computeImports package := by
  unfold computeImports
  rw [Import.compute_congr package (fun _ => h.imports.mem_iff) h.mem_references]

/-- A file is not built for its imports exactly where they are in conflict. Otherwise it has what it
needs to import, each of them once and in strict order. The order in which its members were added
makes no difference to that. -/
theorem build_imports_exact (hn : d.className = some n) :
    ((∃ conflict, d.build = .error (.importConflict n.package conflict)) ↔
      d.Conflicting n.package) ∧
    (¬ d.Conflicting n.package → ∃ f, d.build = .ok f ∧
      (∀ i, i ∈ f.imports ↔ d.Needs n.package i) ∧ f.imports.Nodup ∧
      f.imports.Pairwise (·.before ·)) ∧
    ∀ e, Rearranged d e → e.build.map (·.imports) = d.build.map (·.imports) := by
  refine ⟨⟨?_, ?_⟩, ?_, ?_⟩
  · rintro ⟨conflict, hc⟩
    by_contra h
    obtain ⟨f, hf⟩ := exists_build_of_not_conflicting hn h
    rw [hf] at hc
    cases hc
  · intro h
    rcases build_cases hn with ⟨f, hf⟩ | hc
    · exact absurd h (imports_of_build hn hf).1
    · exact hc
  · intro h
    obtain ⟨f, hf⟩ := exists_build_of_not_conflicting hn h
    refine ⟨f, hf, ?_⟩
    rw [(imports_of_build hn hf).2]
    exact ⟨fun _ => mem_found, nodup_found d n.package, pairwise_found d n.package⟩
  · intro e he
    rw [build_of_className hn, build_of_className (he.className.symm.trans hn),
      he.computeImports_eq]
    cases e.computeImports n.package <;> rfl

/-- A draft that asks for an import twice, and mentions an outer class deep in its code, a marker in
a type inside of a type, and classes that need no import. -/
def importingDraft : FileDraft where
  className := some { package := "io.x", enclosing := [], simpleName := "F" }
  imports := [⟨"io.z", "check"⟩, ⟨"io.y", "K"⟩, ⟨"io.z", "check"⟩]
  types := [{
    name := "T"
    nested := [{
      name := "N"
      annotations := [{ package := "io.w", enclosing := [], simpleName := "Mark" }] }] }]
  functions := [
    { name := "f"
      statements := [⟨"%L", [.arguments [⟨"%L", [.code ⟨"%T", [.type (.scopeOf
        (.named { package := "io.y", enclosing := ["O"], simpleName := "K" }))]⟩]⟩]]⟩] },
    { name := "g"
      returns := some (.named { package := "io.x", enclosing := [], simpleName := "Mine" }) }]

def turnedDraft : FileDraft :=
  { importingDraft with
    imports := importingDraft.imports.reverse
    functions := importingDraft.functions.reverse }

def neededImports : List Import :=
  [⟨"io.w", "Mark"⟩, ⟨"io.y", "K"⟩, ⟨"io.y", "O"⟩, ⟨"io.z", "check"⟩]

theorem build_imports_exact_importingDraft :
    Rearranged importingDraft turnedDraft ∧ ¬ importingDraft.Conflicting "io.x" ∧
      (∀ i, i ∈ neededImports ↔ importingDraft.Needs "io.x" i) ∧
      ∃ f, turnedDraft.build = .ok f ∧ f.imports = neededImports := by
  have hr : Rearranged importingDraft turnedDraft :=
    ⟨rfl, (List.reverse_perm _).symm, .refl _, .refl _, (List.reverse_perm _).symm⟩
  have hy : yields importingDraft.build (·.imports == neededImports) = true := by decide +kernel
  obtain ⟨f, hf, hi⟩ := exists_of_yields hy
  obtain ⟨herror, hbuilt, hturned⟩ := build_imports_exact (d := importingDraft) rfl
  have hc : ¬ importingDraft.Conflicting "io.x" := by
    intro h
    obtain ⟨_, he⟩ := herror.mpr h
    rw [hf] at he
    cases he
  obtain ⟨g, hg, hneeds, _⟩ := hbuilt hc
  obtain rfl : f = g := Except.ok.inj (hf.symm.trans hg)
  have ht : turnedDraft.build.map (·.imports) = .ok neededImports := by
    rw [hturned turnedDraft hr, hf, ← beq_iff_eq.mp hi]
    rfl
  rw [beq_iff_eq.mp hi] at hneeds
  exact ⟨hr, hc, hneeds, map_eq_ok.mp ht⟩

end FileDraft

end FluentKotlin
