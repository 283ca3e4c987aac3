import FluentKotlin.Kotlin.Draft
import FluentKotlin.Proofs.Report.Value
import Mathlib.Data.List.Nodup

/-! # Simple names in a file

A file mentions its classes by their local names, so two of its classes should never have the same.
The imports of a file are compared with each other and with the classes of its own package. Classes
that need no import take no part in the comparison, and so they are what can still be confused.
-/

namespace FluentKotlin

namespace Import

variable {package : String} {localNames : List String} {seen is : List Import}

theorem conflict?_eq_none_iff {i : Import} :
    conflict? package localNames seen i = none ↔
      (∀ j ∈ seen, j.name ≠ i.name) ∧ (i.package ≠ package → i.name ∉ localNames) := by
  unfold conflict?
  cases hj : seen.find? (·.name == i.name) with
  | some j =>
    have hm : j ∈ seen := List.mem_of_find?_eq_some hj
    have hn : j.name = i.name := by simpa using List.find?_some hj
    exact iff_of_false nofun fun ⟨h, _⟩ => h j hm hn
  | none =>
    have hs : ∀ j ∈ seen, j.name ≠ i.name := by simpa [List.find?_eq_none] using hj
    cases hc : i.package != package && localNames.contains i.name with
    | true =>
      have hc' : i.package ≠ package ∧ i.name ∈ localNames := by simpa using hc
      exact iff_of_false nofun fun ⟨_, h⟩ => h hc'.1 hc'.2
    | false =>
      have hc' : i.package ≠ package → i.name ∉ localNames := by simpa using hc
      exact iff_of_true rfl ⟨hs, hc'⟩

theorem firstConflict?_eq_none_iff :
    firstConflict? package localNames seen is = none ↔
      (∀ i ∈ is, ∀ j ∈ seen, j.name ≠ i.name) ∧ (is.map (·.name)).Nodup ∧
        ∀ i ∈ is, i.package ≠ package → i.name ∉ localNames := by
  induction is generalizing seen with
  | nil => simp [firstConflict?]
  | cons i is ih =>
    unfold firstConflict?
    cases hc : conflict? package localNames seen i with
    | some c =>
      refine iff_of_false nofun fun ⟨hs, _, hl⟩ => ?_
      have hn := conflict?_eq_none_iff.mpr ⟨hs i List.mem_cons_self, hl i List.mem_cons_self⟩
      rw [hc] at hn
      cases hn
    | none =>
      obtain ⟨hs, hl⟩ := conflict?_eq_none_iff.mp hc
      dsimp only
      rw [ih]
      simp only [List.map_cons, List.nodup_cons, List.mem_map, List.forall_mem_cons,
        List.forall_mem_append, not_exists, not_and, List.mem_singleton, forall_eq]
      constructor
      · rintro ⟨hd, hn, hi⟩
        exact ⟨⟨hs, fun j hj => (hd j hj).1⟩, ⟨fun j hj he => (hd j hj).2 he.symm, hn⟩, hl, hi⟩
      · rintro ⟨⟨_, hd⟩, ⟨hf, hn⟩, _, hi⟩
        exact ⟨fun j hj => ⟨hd j hj, fun he => hf j hj he.symm⟩, hn, hi⟩

theorem compute_eq_ok {wanted found : List Import} {references : List ClassName} :
    compute package wanted references = .ok found ↔
      found = ordered (wanted ++ foreign package references) ∧
        firstConflict? package (Import.localNames package references) [] found = none := by
  unfold compute
  dsimp only
  generalize ordered (wanted ++ foreign package references) = all
  constructor
  · intro h
    cases hc : firstConflict? package (Import.localNames package references) [] all with
    | some c =>
      rw [hc] at h
      cases h
    | none =>
      rw [hc] at h
      cases h
      exact ⟨rfl, hc⟩
  · rintro ⟨rfl, hc⟩
    rw [hc]

/-- Classes that are compared have one package where their outermost names are the same. -/
theorem package_eq_of_compute {wanted found : List Import} {references : List ClassName}
    (h : compute package wanted references = .ok found) {c e : ClassName}
    (hc : c ∈ references) (he : e ∈ references) (hpc : needsPackage c = true)
    (hpe : needsPackage e = true) (ht : c.topName = e.topName) : c.package = e.package := by
  obtain ⟨rfl, hnone⟩ := compute_eq_ok.mp h
  obtain ⟨_, hnames, hlocal⟩ := firstConflict?_eq_none_iff.mp hnone
  have mem_found : ∀ a ∈ references, needsPackage a = true → a.package ≠ package →
      ofClass a ∈ ordered (wanted ++ foreign package references) := by
    intro a ha hp hn
    refine mem_ordered.mpr (List.mem_append_right _ (List.mem_map.mpr ⟨a, ?_, rfl⟩))
    simp [ha, hp, hn]
  have mem_local : ∀ a ∈ references, needsPackage a = true → a.package = package →
      a.topName ∈ Import.localNames package references := by
    intro a ha hp hn
    refine List.mem_map.mpr ⟨a, ?_, rfl⟩
    simp [ha, hp, hn]
  by_cases hcp : c.package = package
  · by_cases hep : e.package = package
    · exact hcp.trans hep.symm
    · have hm := mem_local c hc hpc hcp
      rw [ht] at hm
      exact absurd hm (hlocal _ (mem_found e he hpe hep) hep)
  · by_cases hep : e.package = package
    · have hm := mem_local e he hpe hep
      rw [← ht] at hm
      exact absurd hm (hlocal _ (mem_found c hc hpc hcp) hcp)
    · have hi := List.inj_on_of_nodup_map hnames (mem_found c hc hpc hcp)
        (mem_found e he hpe hep) ht
      exact congrArg Import.package hi

end Import

/-- The classes that the declarations of a file mention. -/
def SourceFile.references (f : SourceFile) : List ClassName :=
  f.aliases.flatMap AliasDecl.references ++ f.types.flatMap TypeDecl.references
    ++ f.functions.flatMap FunctionDecl.references

/-- Every class that a file mentions is told from the others by the name it is rendered with. -/
def SourceFile.Unambiguous (f : SourceFile) : Prop :=
  ∀ c ∈ f.references, ∀ e ∈ f.references, c.nullable = false → e.nullable = false →
    c ≠ e → c.rendered ≠ e.rendered

theorem ClassName.rendered_of_nonNull {c : ClassName} (h : c.nullable = false) :
    c.rendered = c.localName := by
  simp [ClassName.rendered, nullMark, h]

theorem ClassName.eq_of_simpleNames {c e : ClassName} (hp : c.package = e.package)
    (hs : c.simpleNames = e.simpleNames) (hn : c.nullable = e.nullable) : c = e := by
  obtain ⟨p, enclosing, simpleName, nullable⟩ := c
  obtain ⟨q, others, otherName, otherNullable⟩ := e
  obtain ⟨rfl, rfl⟩ : enclosing = others ∧ simpleName = otherName := by
    simpa [ClassName.simpleNames] using List.append_inj' hs rfl
  cases hp
  cases hn
  rfl

theorem ClassName.topName_of_simpleNames {c e : ClassName}
    (hs : c.simpleNames = e.simpleNames) : c.topName = e.topName := by
  have head_eq : ∀ a : ClassName, a.simpleNames.head? = some a.topName := by
    intro a
    cases h : a.enclosing <;> simp [ClassName.simpleNames, ClassName.topName, h]
  exact Option.some.inj ((head_eq c).symm.trans ((congrArg List.head? hs).trans (head_eq e)))

/-- What has to keep classes apart where the imports of a file are not compared. -/
structure KeptApart (references : List ClassName) : Prop where
  /-- One local name is cut into simple names in one way. -/
  cut : ∀ c ∈ references, ∀ e ∈ references, c.nullable = false → e.nullable = false →
    c.localName = e.localName → c.simpleNames = e.simpleNames
  /-- A class that needs no import shares its names with no class of another package. -/
  visible : ∀ c ∈ references, ∀ e ∈ references, c.nullable = false → e.nullable = false →
    Import.needsPackage c = false → c.simpleNames = e.simpleNames → c.package = e.package

namespace FileDraft

variable {d : FileDraft} {n : ClassName} {f : SourceFile}

theorem build_of_className (hn : d.className = some n) :
    d.build = (d.computeImports n.package).map fun imports =>
      { className := n, imports, aliases := d.aliases, types := d.types,
        functions := d.functions } := by
  unfold build
  rw [hn]
  dsimp only
  cases d.computeImports n.package <;> rfl

theorem exists_className_of_build (h : d.build = .ok f) : ∃ n, d.className = some n := by
  cases hn : d.className with
  | none =>
    rw [build, hn] at h
    cases h
  | some n => exact ⟨n, rfl⟩

theorem exists_imports_of_build (hn : d.className = some n) (h : d.build = .ok f) :
    ∃ imports, Import.compute n.package d.imports d.references = .ok imports ∧
      f.imports = imports ∧ f.references = d.references := by
  rw [build_of_className hn, map_eq_ok] at h
  obtain ⟨imports, hi, rfl⟩ := h
  exact ⟨imports, mapError_eq_ok.mp hi, rfl, rfl⟩

theorem build_cases (hn : d.className = some n) :
    (∃ f, d.build = .ok f) ∨
      ∃ conflict, d.build = .error (.importConflict n.package conflict) := by
  rw [build_of_className hn]
  unfold computeImports
  cases Import.compute n.package d.imports d.references with
  | ok imports => exact Or.inl ⟨_, rfl⟩
  | error conflict => exact Or.inr ⟨conflict, rfl⟩

/-- The comparison of imports finds every two classes that need an import and clash. -/
theorem conflict_of_clash (hn : d.className = some n) {c e : ClassName} (hc : c ∈ d.references)
    (he : e ∈ d.references) (hpc : Import.needsPackage c = true)
    (hpe : Import.needsPackage e = true) (ht : c.topName = e.topName)
    (hp : c.package ≠ e.package) :
    ∃ conflict, d.build = .error (.importConflict n.package conflict) := by
  rcases build_cases hn with ⟨f, hf⟩ | h
  · obtain ⟨imports, hi, _⟩ := exists_imports_of_build hn hf
    exact absurd (Import.package_eq_of_compute hi hc he hpc hpe ht) hp
  · exact h

theorem unambiguous_iff_keptApart (hn : d.className = some n) (h : d.build = .ok f) :
    f.Unambiguous ↔ KeptApart d.references := by
  obtain ⟨imports, hi, _, hr⟩ := exists_imports_of_build hn h
  unfold SourceFile.Unambiguous
  rw [hr]
  constructor
  · intro hu
    have eq_of_local : ∀ c ∈ d.references, ∀ e ∈ d.references, c.nullable = false →
        e.nullable = false → c.localName = e.localName → c = e := by
      intro c hc e he hnc hne hl
      by_contra hce
      refine hu c hc e he hnc hne hce ?_
      rw [ClassName.rendered_of_nonNull hnc, ClassName.rendered_of_nonNull hne, hl]
    constructor
    · intro c hc e he hnc hne hl
      rw [eq_of_local c hc e he hnc hne hl]
    · intro c hc e he hnc hne _ hs
      have hl : c.localName = e.localName := by
        unfold ClassName.localName
        rw [hs]
      rw [eq_of_local c hc e he hnc hne hl]
  · rintro ⟨hcut, hvisible⟩ c hc e he hnc hne hce hrendered
    rw [ClassName.rendered_of_nonNull hnc, ClassName.rendered_of_nonNull hne] at hrendered
    have hs := hcut c hc e he hnc hne hrendered
    refine hce (ClassName.eq_of_simpleNames ?_ hs (hnc.trans hne.symm))
    cases hpc : Import.needsPackage c with
    | false => exact hvisible c hc e he hnc hne hpc hs
    | true =>
      cases hpe : Import.needsPackage e with
      | false => exact (hvisible e he c hc hne hnc hpe hs.symm).symm
      | true =>
        exact Import.package_eq_of_compute hi hc he hpc hpe (ClassName.topName_of_simpleNames hs)

/-- Building keeps every file unambiguous that it lets pass exactly where the draft has no name, the
imports are in conflict, or the classes are kept apart without them. Classes that need an import and
clash always are in conflict. -/
theorem build_unambiguous_iff (d : FileDraft) :
    ((∀ f, d.build = .ok f → f.Unambiguous) ↔
      d.className = none ∨
        (∃ n conflict, d.className = some n ∧
          d.build = .error (.importConflict n.package conflict)) ∨
        KeptApart d.references) ∧
    ∀ n, d.className = some n → ∀ c ∈ d.references, ∀ e ∈ d.references,
      Import.needsPackage c = true → Import.needsPackage e = true → c.topName = e.topName →
      c.package ≠ e.package →
      ∃ conflict, d.build = .error (.importConflict n.package conflict) := by
  constructor
  · constructor
    · intro h
      cases hn : d.className with
      | none => exact Or.inl rfl
      | some n =>
        rcases build_cases hn with ⟨f, hf⟩ | ⟨conflict, hc⟩
        · exact Or.inr (Or.inr ((unambiguous_iff_keptApart hn hf).mp (h f hf)))
        · exact Or.inr (Or.inl ⟨n, conflict, rfl, hc⟩)
    · intro h f hf
      obtain ⟨n, hn⟩ := exists_className_of_build hf
      rcases h with h | ⟨_, conflict, _, hc⟩ | hk
      · rw [h] at hn
        cases hn
      · rw [hc] at hf
        cases hf
      · exact (unambiguous_iff_keptApart hn hf).mpr hk
  · intro n hn c hc e he hpc hpe ht hp
    exact conflict_of_clash hn hc he hpc hpe ht hp

def taking (classes : List ClassName) : FileDraft where
  className := some { package := "io.x", enclosing := [], simpleName := "Uses" }
  functions := [{
    name := "use"
    parameters := classes.map fun c => { name := "it", type := .named c } }]

def distinctClasses : List ClassName :=
  [{ package := "io.y", enclosing := ["Outer"], simpleName := "Inner" },
    { package := "io.x", enclosing := [], simpleName := "Inner" },
    { package := "kotlin", enclosing := [], simpleName := "String" },
    { package := "", enclosing := [], simpleName := "Outer" }]

theorem build_unambiguous_distinctClasses :
    ∃ f, (taking distinctClasses).build = .ok f ∧ f.Unambiguous := by
  have hk : KeptApart (taking distinctClasses).references :=
    ⟨by decide +kernel, by decide +kernel⟩
  have hy : yields (taking distinctClasses).build (fun _ => true) = true := by decide +kernel
  obtain ⟨f, hf, _⟩ := exists_of_yields hy
  exact ⟨f, hf, (build_unambiguous_iff _).1.mpr (Or.inr (Or.inr hk)) f hf⟩

def otherString : ClassName := { package := "io.y", enclosing := [], simpleName := "String" }

theorem build_ambiguous_otherString :
    ∃ f, (taking [kotlinClass "String", otherString]).build = .ok f ∧ ¬ f.Unambiguous := by
  have hy : yields (taking [kotlinClass "String", otherString]).build (fun _ => true) = true := by
    decide +kernel
  obtain ⟨f, hf, _⟩ := exists_of_yields hy
  obtain ⟨_, _, _, hr⟩ := exists_imports_of_build rfl hf
  refine ⟨f, hf, ?_⟩
  unfold SourceFile.Unambiguous
  rw [hr]
  intro hu
  exact hu (kotlinClass "String") (by decide +kernel) otherString (by decide +kernel) rfl rfl
    (by decide) rfl

end FileDraft

end FluentKotlin
