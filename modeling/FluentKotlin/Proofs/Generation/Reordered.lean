import FluentKotlin.Proofs.Document.Reordered
import FluentKotlin.Proofs.Generation.Completion
import FluentKotlin.Proofs.Generation.Linking
import FluentKotlin.Proofs.Kotlin.ImportOrder
import FluentKotlin.Proofs.Schema.Known
import FluentKotlin.Proofs.Together

/-! # Passes over domains in another order

A builder file is made from its own domain and from what is known under names, and so it does not
depend on the order of the domains. The root file has a function for each root domain in the order
of the document, and its imports do not depend on that order.
-/

namespace FluentKotlin

open Reporting Generating

/-- The files are the same but for the order of their functions. -/
structure SourceFile.Alike (f g : SourceFile) : Prop where
  className : f.className = g.className
  imports : f.imports = g.imports
  aliases : f.aliases = g.aliases
  types : f.types = g.types
  functions : f.functions.Perm g.functions

theorem FileDraft.build_together (d : FileDraft) {fs gs : List FunctionDecl} (h : fs.Perm gs) :
    Together SourceFile.Alike (build { d with functions := fs })
      (build { d with functions := gs }) := by
  obtain ⟨className, wanted, aliases, types, _⟩ := d
  cases className with
  | none => exact .failed _
  | some c =>
    have hrefs : ∀ r, r ∈ references ⟨some c, wanted, aliases, types, fs⟩ ↔
        r ∈ references ⟨some c, wanted, aliases, types, gs⟩ := by
      intro r
      unfold references
      simp only [List.mem_append, List.mem_flatMap, h.mem_iff]
    have himports : computeImports ⟨some c, wanted, aliases, types, fs⟩ c.package =
        computeImports ⟨some c, wanted, aliases, types, gs⟩ c.package := by
      unfold computeImports
      rw [Import.compute_congr c.package (fun _ => Iff.rfl) hrefs]
    unfold build
    dsimp only
    rw [himports]
    cases computeImports ⟨some c, wanted, aliases, types, gs⟩ c.package with
    | error e => exact .failed e
    | ok imports => exact .ended ⟨rfl, rfl, rfl, rfl, h⟩

namespace RootFile

variable {settings : Settings} {ds es : List DomainType} {fs gs : List FunctionDecl}

theorem exists_functions (settings : Settings)
    (hn : ∀ d ∈ ds, ClassName.IsName d.qualifiedName) :
    ∃ fs, value (functions settings ds) = .ok fs := by
  induction ds with
  | nil => exact ⟨[], rfl⟩
  | cons d ds ih =>
    obtain ⟨hd, hds⟩ := List.forall_mem_cons.mp hn
    obtain ⟨n, hname, _⟩ := exists_naming settings hd
    obtain ⟨f, hf⟩ : ∃ f, function n = .ok f := by
      unfold function
      rw [ParameterDraft.build_of_name rfl (by decide) rfl, ok_bind,
        FunctionDraft.build_of_name rfl (functionName_ne_empty hname)]
      exact ⟨_, rfl⟩
    obtain ⟨fs, hfs⟩ := ih hds
    refine ⟨f :: fs, ?_⟩
    unfold functions
    simp only [value_bind, value_debug, ok_bind, value_pure, hfs,
      value_ofName_eq_ok.mpr hname, value_ofDecl_eq_ok.mpr hf]

theorem perm_functions (hf : value (functions settings ds) = .ok fs)
    (hg : value (functions settings es) = .ok gs) (hp : ds.Perm es) : fs.Perm gs := by
  have hu : Relator.RightUnique fun d f =>
      ∃ n, Naming.ofDomain settings d = .ok n ∧ function n = .ok f := by
    rintro d f g ⟨n, hn, hf⟩ ⟨m, hm, hg⟩
    obtain rfl : n = m := Except.ok.inj (hn.symm.trans hm)
    exact Except.ok.inj (hf.symm.trans hg)
  obtain ⟨moved, hm, hpm⟩ := List.perm_comp_forall₂ hp.symm (functions_eq_ok hf)
  rw [List.right_unique_forall₂' hu (functions_eq_ok hg) hm]
  exact hpm.symm

theorem value_generate (h : value (functions settings ds) = .ok fs) :
    value (generate settings ds) = (FileDraft.build {
      className := some (Naming.topLevelClass settings.rootFilePackage name)
      functions := fs }).mapError .declaration := by
  unfold generate Generating.ofDecl
  simp only [value_bind, value_debug, ok_bind, value_pure, value_ofExcept, h]
  cases FileDraft.build _ <;> rfl

theorem generate_together (settings : Settings) (hn : ∀ d ∈ ds, ClassName.IsName d.qualifiedName)
    (hp : ds.Perm es) :
    Together SourceFile.Alike (value (generate settings ds)) (value (generate settings es)) := by
  obtain ⟨fs, hf⟩ := exists_functions settings hn
  obtain ⟨gs, hg⟩ := exists_functions settings fun d hd => hn d (hp.mem_iff.mpr hd)
  rw [value_generate hf, value_generate hg]
  have hbuild := FileDraft.build_together
    { className := some (Naming.topLevelClass settings.rootFilePackage name) }
    (perm_functions hf hg hp)
  exact hbuild.mapError _

end RootFile

namespace Pass

variable {settings : Settings} {known other : KnownDomains} {ds es : List DomainType}
  {d : DomainType} {o : Outcome} {root last : List Outcome}

theorem domainFile_congr (h : ∀ name, known.lookup name = other.lookup name) (d : DomainType)
    (n : Naming) : domainFile known d n = domainFile other d n := by
  unfold domainFile
  rw [Schema.ofDomainType_congr h]

/-- What a domain comes to alone depends on what is known under names only. -/
theorem Own.congr (h : ∀ name, known.lookup name = other.lookup name)
    (ho : Own settings known d o) : Own settings other d o := by
  cases ho with
  | made hn hf => exact .made hn (domainFile_congr h .. ▸ hf)
  | failed hn hf => exact .failed hn (domainFile_congr h .. ▸ hf)

/-- What the roots come to in two passes: nothing, the same failure, or files that are alike. -/
inductive RootsAlike : List Outcome → List Outcome → Prop where
  | absent : RootsAlike [] []
  | failed (failure : Failure) : RootsAlike [.failed failure] [.failed failure]
  | made {f g : SourceFile} : f.Alike g → RootsAlike [.made f] [.made g]

theorem RootOwn.alike (hr : RootOwn settings ds root) (hl : RootOwn settings es last)
    (hn : ∀ d ∈ ds, ClassName.IsName d.qualifiedName) (hp : ds.Perm es) :
    RootsAlike root last := by
  have ht := RootFile.generate_together settings hn hp
  have hnil : ds = [] ↔ es = [] := eq_nil_iff_of_perm hp
  cases hr with
  | absent hd =>
    cases hl with
    | absent _ => exact .absent
    | made he _ => exact absurd (hnil.mp hd) he
    | failed he _ => exact absurd (hnil.mp hd) he
  | made hd hf =>
    rw [hf] at ht
    cases hl with
    | absent he => exact absurd (hnil.mpr he) hd
    | made _ hg =>
      rw [hg] at ht
      cases ht with
      | ended ha => exact .made ha
    | failed _ hg =>
      rw [hg] at ht
      cases ht
  | failed hd hf =>
    rw [hf] at ht
    cases hl with
    | absent he => exact absurd (hnil.mpr he) hd
    | made _ hg =>
      rw [hg] at ht
      cases ht
    | failed _ hg =>
      rw [hg] at ht
      cases ht
      exact .failed _

/-- What two passes over the same domains in different orders come to: both are skipped, or every
domain comes to the same in both. -/
inductive Alike (ds es : List DomainType) : PassResult → PassResult → Prop where
  | skipped : Alike ds es { skipped := true } { skipped := true }
  | ended {files others root last : List Outcome} : files.length = ds.length →
      others.length = es.length → (ds.zip files).Perm (es.zip others) → RootsAlike root last →
      Alike ds es { outcomes := files ++ root } { outcomes := others ++ last }

/-- Domains that make up a document are passed over alike in every order. -/
theorem run_together {doc other : Document} (hc : doc.Closed) (hc' : other.Closed)
    (hp : doc.domains.Perm other.domains) (hm : ∀ m, settings.marker = some m → m ≠ "") :
    Together (Alike doc.domains other.domains) (value (run settings doc.domains))
      (value (run settings other.domains)) := by
  have hnil : doc.domains = [] ↔ other.domains = [] := eq_nil_iff_of_perm hp
  by_cases hready : settings.isIgnored = true ∨ doc.domains = [] ∨ settings.MarkerNamed
  · cases hi : settings.isIgnored with
    | true =>
      rw [run_of_ignored hi, run_of_ignored hi]
      exact .ended .skipped
    | false =>
      have hactive := hready.resolve_left (Bool.eq_false_iff.mp hi)
      obtain ⟨files, root, hr, hown, hroot⟩ :=
        exists_outcomes_of_ready hc.named hc.denoted hi hactive
      obtain ⟨others, last, hr', hown', hlast⟩ :=
        exists_outcomes_of_ready hc'.named hc'.denoted hi (hactive.imp_left hnil.mp)
      rw [hr, hr']
      refine .ended (.ended hown.length_eq.symm hown'.length_eq.symm ?_ ?_)
      · have hknown := KnownDomains.lookup_ofList_congr hc.distinct hp
        refine perm_zip_of_forall₂ (fun _ _ _ h h' => h.unique h') ?_ hown' hp
        exact hown.imp fun _ _ ho => ho.congr hknown
      · exact hroot.alike hlast (fun d hd => hc.named d (List.mem_filter.mp hd).1) (hp.filter _)
  · have hready' := mt (Or.imp_right (Or.imp_left hnil.mpr)) hready
    obtain ⟨m, hmarker, hr⟩ := value_run_of_not_ready hc.named hc.denoted hm hready
    obtain ⟨m', hmarker', hr'⟩ := value_run_of_not_ready hc'.named hc'.denoted hm hready'
    obtain rfl : m = m' := Option.some.inj (hmarker.symm.trans hmarker')
    rw [hr, hr']
    exact .failed _

/-- The order of the domains of a document does not matter where they have simple names of their
own. With another order it is accepted as before and describes the same domains, and a pass over
them comes to the same for every domain, and to a root file that is alike. -/
theorem run_reordered {text other : String} {entries shuffled : Entries} {items moved : List Value}
    {σ : Equiv.Perm Nat} (ht : Document.sections text = .ok entries)
    (ho : Document.sections other = .ok shuffled)
    (h : Document.Reordered σ entries shuffled items moved) :
    ((∃ doc, Document.ofText text = .ok doc) ↔ ∃ doc, Document.ofText other = .ok doc) ∧
      ∀ doc doc', Document.ofText text = .ok doc → Document.ofText other = .ok doc' →
        Document.Matches σ items moved doc doc' ∧
          ∀ options settings, Settings.ofOptions options = .ok settings →
            Together (Alike doc.domains doc'.domains) (value (run settings doc.domains))
              (value (run settings doc'.domains)) := by
  have htext : Document.ofText text = Document.ofEntries entries := by
    unfold Document.ofText
    rw [ht, ok_bind]
  have hother : Document.ofText other = Document.ofEntries shuffled := by
    unfold Document.ofText
    rw [ho, ok_bind]
  refine ⟨?_, fun doc doc' hd hd' => ?_⟩
  · rw [htext, hother]
    constructor
    · rintro ⟨doc, hd⟩
      obtain ⟨doc', hd', _⟩ := h.exists_matching hd
      exact ⟨doc', hd'⟩
    · rintro ⟨doc, hd⟩
      obtain ⟨doc', hd', _⟩ := h.symm.exists_matching hd
      exact ⟨doc', hd'⟩
  · obtain ⟨found, hfound, hmatches⟩ := h.exists_matching (htext ▸ hd)
    obtain rfl : found = doc' := Except.ok.inj (hfound.symm.trans (hother ▸ hd'))
    refine ⟨hmatches, fun options settings hs => ?_⟩
    exact run_together (Document.closed_of_ofText hd) (Document.closed_of_ofText hd')
      hmatches.domains fun m hm => (Settings.marker_of_ofOptions hs hm).1

def rootEntry (name : String) : Value :=
  .mapping [(.text "name", .text name), (.text "root", .scalar (.int 1))]

def isRootEntry (name : String) : Value → Bool
  | .mapping [(.text nameKey, .scalar (.text s)), (.text rootKey, .scalar (.int n))] =>
    nameKey == "name" && s == name && rootKey == "root" && n == 1
  | _ => false

theorem eq_rootEntry {name : String} {v : Value} (h : isRootEntry name v = true) :
    v = rootEntry name := by
  unfold isRootEntry at h
  split at h
  · simp only [Bool.and_eq_true, beq_iff_eq] at h
    obtain ⟨⟨⟨rfl, rfl⟩, rfl⟩, rfl⟩ := h
    rfl
  · cases h

def rootSections (first second : String) : Entries :=
  [(.text "domains", .list [rootEntry first, rootEntry second])]

def areRootSections (first second : String) : Entries → Bool
  | [(.text key, .list [v, w])] =>
    key == "domains" && isRootEntry first v && isRootEntry second w
  | _ => false

theorem eq_rootSections {first second : String} {entries : Entries}
    (h : areRootSections first second entries = true) : entries = rootSections first second := by
  unfold areRootSections at h
  split at h
  · simp only [Bool.and_eq_true, beq_iff_eq] at h
    obtain ⟨⟨rfl, hv⟩, hw⟩ := h
    rw [eq_rootEntry hv, eq_rootEntry hw]
    rfl
  · cases h

def rootText (first second : String) : String :=
  "domains:\n- name: " ++ first ++ "\n  root: 1\n- name: " ++ second ++ "\n  root: 1"

theorem reordered_rootSections : Document.Reordered 1 (rootSections "A" "B") (rootSections "B" "A")
    [rootEntry "A", rootEntry "B"] [rootEntry "B", rootEntry "A"] where
  others key hk := by
    simp [rootSections, field?, hk.symm]
  inOrder := rfl
  inOther := rfl
  perm := .swap _ _ _
  distinct := by decide +kernel

theorem run_reordered_roots :
    ∃ doc doc', Document.ofText (rootText "A" "B") = .ok doc ∧
      Document.ofText (rootText "B" "A") = .ok doc' ∧
      Settings.ofOptions (markedOptions "io.y.M") = .ok (markedSettings "io.y.M") ∧
      Together (Alike doc.domains doc'.domains) (value (run (markedSettings "io.y.M") doc.domains))
        (value (run (markedSettings "io.y.M") doc'.domains)) := by
  have hs : yields (Document.sections (rootText "A" "B")) (areRootSections "A" "B") = true := by
    decide +kernel
  have hs' : yields (Document.sections (rootText "B" "A")) (areRootSections "B" "A") = true := by
    decide +kernel
  obtain ⟨entries, ht, he⟩ := exists_of_yields hs
  obtain ⟨shuffled, ho, he'⟩ := exists_of_yields hs'
  obtain rfl := eq_rootSections he
  obtain rfl := eq_rootSections he'
  obtain ⟨hiff, hall⟩ := run_reordered ht ho reordered_rootSections
  have hy : yields (Document.ofText (rootText "A" "B")) (fun _ => true) = true := by
    decide +kernel
  obtain ⟨doc, hd, _⟩ := exists_of_yields hy
  obtain ⟨doc', hd'⟩ := hiff.mp ⟨doc, hd⟩
  have hset : Settings.ofOptions (markedOptions "io.y.M") = .ok (markedSettings "io.y.M") := rfl
  exact ⟨doc, doc', hd, hd', hset, (hall doc doc' hd hd').2 _ _ hset⟩

end Pass

end FluentKotlin
