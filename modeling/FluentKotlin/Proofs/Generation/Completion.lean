import FluentKotlin.Proofs.Generation.Isolation

/-! # When a pass comes to a result

A pass over an accepted document with accepted options comes to a result unless it needs the marker
class and the text for it is no name. Options are accepted whatever that text is, and so the fault
is found only when the first file is made.
-/

namespace FluentKotlin

open Reporting Generating

namespace Pass

variable {settings : Settings} {known : KnownDomains} {ds es : List DomainType} {d : DomainType}
  {n : Naming} {m : String}

theorem markerClass_of_not_isName (hm : ¬ ClassName.IsName m) (hne : m ≠ "") :
    markerClass (some m) = .error (.invalid m) := by
  unfold markerClass
  dsimp only
  rw [if_neg hne, ClassName.ofQualified_of_not_isName hm]
  rfl

theorem value_builderType_of_markerClass {schemas : List Schema} {e : NameError}
    (h : markerClass n.settings.marker = .error e) :
    value (BuilderFile.builderType n schemas) = .error (.name e) := by
  unfold BuilderFile.builderType
  refine value_bind_of_error ?_
  unfold Generating.ofName
  rw [value_ofExcept, h]
  rfl

theorem value_generate_of_markerClass {schemas : List Schema} {e : NameError}
    (h : markerClass n.settings.marker = .error e) :
    value (BuilderFile.generate n schemas) = .error (.name e) := by
  unfold BuilderFile.generate
  simp only [value_bind, value_debug, ok_bind, value_builderType_of_markerClass h]
  rfl

/-- A marker class without a name ends the pass at the first domain. -/
theorem value_domainOutcome_of_unnamed (hn : ClassName.IsName d.qualifiedName)
    (hp : ∀ p ∈ d.properties, p.Denoted es) (hm : settings.marker = some m)
    (hu : ¬ ClassName.IsName m) (hne : m ≠ "") :
    value (domainOutcome settings known d) = .error (.invalid m) := by
  obtain ⟨n, hname, hset⟩ := exists_naming settings hn
  obtain ⟨schemas, hs⟩ := (Schema.settles_ofDomainType known hp).returns
  have hc : markerClass n.settings.marker = .error (.invalid m) := by
    rw [hset, hm]
    exact markerClass_of_not_isName hu hne
  have hf : value (domainFile known d n) = .error (.name (.invalid m)) := by
    unfold domainFile
    rw [value_bind, value_mapError, hs]
    exact value_generate_of_markerClass hc
  unfold domainOutcome
  simp only [value_bind, value_liftM, hname, ok_bind]
  rw [value_attempt, hf]
  rfl

theorem value_run_of_unnamed (hd : d ∈ ds) (hn : ∀ d ∈ ds, ClassName.IsName d.qualifiedName)
    (hp : ∀ d ∈ ds, ∀ p ∈ d.properties, p.Denoted es) (hi : settings.isIgnored = false)
    (hm : settings.marker = some m) (hu : ¬ ClassName.IsName m) (hne : m ≠ "") :
    value (run settings ds) = .error (.invalid m) := by
  have hos : value (domainOutcomes settings (.ofList ds) ds) = .error (.invalid m) := by
    cases ds with
    | nil => cases hd
    | cons e es =>
      unfold domainOutcomes
      refine value_bind_of_error ?_
      exact value_domainOutcome_of_unnamed (hn e List.mem_cons_self) (hp e List.mem_cons_self)
        hm hu hne
  unfold run
  rw [hi, if_neg Bool.false_ne_true]
  simp only [value_bind, value_debug, ok_bind, value_sayAll, hos]
  rfl

theorem exists_outcomes_of_ready (hn : ∀ d ∈ ds, ClassName.IsName d.qualifiedName)
    (hp : ∀ d ∈ ds, ∀ p ∈ d.properties, p.Denoted es) (hi : settings.isIgnored = false)
    (h : ds = [] ∨ settings.MarkerNamed) :
    ∃ files root, value (run settings ds) = .ok { outcomes := files ++ root } ∧
      List.Forall₂ (Own settings (.ofList ds)) ds files ∧
      RootOwn settings (ds.filter (·.isRoot)) root := by
  rcases h with rfl | hm
  · have hnone : value (rootOutcomes settings ([].filter (·.isRoot))) = .ok [] := rfl
    exact ⟨[], [], (run_of_outcomes hi rfl hnone).1, .nil, .absent rfl⟩
  · obtain ⟨files, hf, hown, _⟩ := own_domainOutcomes (.ofList ds) hn hm hp
    have hroots : ∀ d ∈ ds.filter (·.isRoot), ClassName.IsName d.qualifiedName :=
      fun d hd => hn d (List.mem_filter.mp hd).1
    obtain ⟨root, hr, hroot, _⟩ := rootOwn_rootOutcomes settings hroots
    exact ⟨files, root, (run_of_outcomes hi hf hr).1, hown, hroot⟩

theorem exists_result_of_ready (hn : ∀ d ∈ ds, ClassName.IsName d.qualifiedName)
    (hp : ∀ d ∈ ds, ∀ p ∈ d.properties, p.Denoted es)
    (h : settings.isIgnored = true ∨ ds = [] ∨ settings.MarkerNamed) :
    ∃ result, value (run settings ds) = .ok result := by
  cases hi : settings.isIgnored with
  | true => exact ⟨_, run_of_ignored hi⟩
  | false =>
    have hready := h.resolve_left (Bool.eq_false_iff.mp hi)
    obtain ⟨_, _, hr, _⟩ := exists_outcomes_of_ready hn hp hi hready
    exact ⟨_, hr⟩

/-- Where a marker class without a name stops the pass, the text for it is the error. -/
theorem value_run_of_not_ready (hn : ∀ d ∈ ds, ClassName.IsName d.qualifiedName)
    (hp : ∀ d ∈ ds, ∀ p ∈ d.properties, p.Denoted es)
    (hne : ∀ m, settings.marker = some m → m ≠ "")
    (h : ¬ (settings.isIgnored = true ∨ ds = [] ∨ settings.MarkerNamed)) :
    ∃ m, settings.marker = some m ∧ value (run settings ds) = .error (.invalid m) := by
  obtain ⟨hi, h⟩ := not_or.mp h
  obtain ⟨hds, hm⟩ := not_or.mp h
  obtain ⟨m, hmarker, hu⟩ : ∃ m, settings.marker = some m ∧ ¬ ClassName.IsName m := by
    simpa [Settings.MarkerNamed] using hm
  obtain ⟨d, hd⟩ := List.exists_mem_of_ne_nil ds hds
  exact ⟨m, hmarker,
    value_run_of_unnamed hd hn hp (Bool.eq_false_iff.mpr hi) hmarker hu (hne m hmarker)⟩

/-- A pass over an accepted document with accepted options has a result exactly where it is skipped,
has nothing to make, or has no marker class without a name. Nothing but such a marker class is in
its way. -/
theorem exists_result_iff {text : String} {options : Entries} {doc : Document}
    (hd : Document.ofText text = .ok doc) (hs : Settings.ofOptions options = .ok settings) :
    ((∃ result, value (run settings doc.domains) = .ok result) ↔
      settings.isIgnored = true ∨ doc.domains = [] ∨
        ∀ m, settings.marker = some m → ∃ s ∈ Text.segments '.' m, s ≠ "") ∧
    ∀ e, value (run settings doc.domains) = .error e →
      ∃ m, settings.marker = some m ∧ e = .invalid m := by
  obtain ⟨_, hnamed, hdenoted⟩ := Document.closed_of_ofText hd
  rw [← Settings.markerNamed_iff hs]
  by_cases h : settings.isIgnored = true ∨ doc.domains = [] ∨ settings.MarkerNamed
  · obtain ⟨result, hr⟩ := exists_result_of_ready hnamed hdenoted h
    refine ⟨iff_of_true ⟨result, hr⟩ h, ?_⟩
    intro e he
    rw [hr] at he
    cases he
  · have hne : ∀ m, settings.marker = some m → m ≠ "" := fun m hm =>
      (Settings.marker_of_ofOptions hs hm).1
    obtain ⟨m, hmarker, hr⟩ := value_run_of_not_ready hnamed hdenoted hne h
    refine ⟨iff_of_false ?_ h, ?_⟩
    · rintro ⟨_, hok⟩
      rw [hr] at hok
      cases hok
    · intro e he
      rw [hr] at he
      cases he
      exact ⟨m, hmarker, rfl⟩

def soleText : String := "domains:\n- name: io.x.A"

theorem exists_result_of_named_marker :
    ∃ doc result, Document.ofText soleText = .ok doc ∧
      Settings.ofOptions (markedOptions "io.y.M") = .ok (markedSettings "io.y.M") ∧
      value (run (markedSettings "io.y.M") doc.domains) = .ok result := by
  have hy : yields (Document.ofText soleText) (fun _ => true) = true := by decide +kernel
  obtain ⟨doc, hd, _⟩ := exists_of_yields hy
  have hs : Settings.ofOptions (markedOptions "io.y.M") = .ok (markedSettings "io.y.M") := rfl
  have hm : ∀ m, (markedSettings "io.y.M").marker = some m →
      ∃ s ∈ Text.segments '.' m, s ≠ "" := by
    intro m hm
    cases hm
    exact ⟨"M", by decide, by decide⟩
  obtain ⟨result, hr⟩ := (exists_result_iff hd hs).1.mpr (Or.inr (Or.inr hm))
  exact ⟨doc, result, hd, hs, hr⟩

/-- The options with a dot for the marker class are accepted, and the pass has no result. -/
theorem no_result_of_dot_marker :
    ∃ doc, Document.ofText soleText = .ok doc ∧
      Settings.ofOptions (markedOptions ".") = .ok (markedSettings ".") ∧
      value (run (markedSettings ".") doc.domains) = .error (.invalid ".") := by
  have hy : yields (Document.ofText soleText) (fun doc => !doc.domains.isEmpty) = true := by
    decide +kernel
  obtain ⟨doc, hd, hy⟩ := exists_of_yields hy
  obtain ⟨_, hnamed, hdenoted⟩ := Document.closed_of_ofText hd
  obtain ⟨d, hmem⟩ := List.exists_mem_of_ne_nil doc.domains (by simpa using hy)
  have hu : ¬ ClassName.IsName "." := by
    unfold ClassName.IsName
    decide
  exact ⟨doc, hd, rfl, value_run_of_unnamed hmem hnamed hdenoted rfl rfl hu (by decide)⟩

end Pass

end FluentKotlin
