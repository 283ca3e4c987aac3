import FluentKotlin.Proofs.Generation.Confined
import FluentKotlin.Proofs.Report.Errors

/-! # Failures stay apart

A pass over a closed document makes of every domain what the domain alone comes to, be it a file or
a failure, and reports an error for the failures only. The root file comes after them and is judged
by itself. A pass without a result can only be due to the text for the marker class.
-/

namespace FluentKotlin

open Reporting Generating

theorem PassResult.length_files_add_length_failures (r : PassResult) :
    r.files.length + r.failures.length = r.outcomes.length := by
  unfold PassResult.files PassResult.failures
  induction r.outcomes with
  | nil => rfl
  | cons o os ih =>
    cases o <;> simp only [List.filterMap_cons, Outcome.file?, Outcome.failure?,
      List.length_cons] <;> omega

namespace Settings

variable {settings : Settings} {options : Entries}

theorem text?_eq_some {key s : String} (h : text? key options = .ok (some s)) :
    s ≠ "" ∧ ∃ t, s = Text.trim t := by
  unfold text? at h
  split at h
  · cases h
  · obtain ⟨t, _, h⟩ := bind_eq_ok.mp h
    have hs := pure_eq_ok.mp h
    by_cases he : Text.trim t = ""
    · rw [if_pos he] at hs
      cases hs
    · rw [if_neg he] at hs
      cases hs
      exact ⟨he, t, rfl⟩

theorem marker_of_ofOptions {m : String} (h : ofOptions options = .ok settings)
    (hm : settings.marker = some m) : m ≠ "" ∧ ∃ t, m = Text.trim t := by
  unfold ofOptions at h
  obtain ⟨_, _, h⟩ := bind_eq_ok.mp h
  obtain ⟨_, _, h⟩ := bind_eq_ok.mp h
  obtain ⟨_, _, h⟩ := bind_eq_ok.mp h
  obtain ⟨marker, hmarker, h⟩ := bind_eq_ok.mp h
  obtain ⟨_, _, h⟩ := bind_eq_ok.mp h
  cases h
  dsimp only at hm
  subst hm
  exact text?_eq_some hmarker

theorem markerNamed_iff (h : ofOptions options = .ok settings) :
    settings.MarkerNamed ↔
      ∀ m, settings.marker = some m → ∃ s ∈ Text.segments '.' m, s ≠ "" := by
  refine forall₂_congr fun m hm => ?_
  obtain ⟨_, t, rfl⟩ := marker_of_ofOptions h hm
  exact ClassName.isName_trim

end Settings

namespace Pass

variable {settings : Settings} {known : KnownDomains} {ds es : List DomainType} {d : DomainType}
  {os : List Outcome}

/-- What a domain alone comes to. -/
inductive Own (settings : Settings) (known : KnownDomains) (d : DomainType) : Outcome → Prop where
  | made {n : Naming} {file : SourceFile} : Naming.ofDomain settings d = .ok n →
      value (domainFile known d n) = .ok file → Own settings known d (.made file)
  | failed {n : Naming} {e : DeclError} : Naming.ofDomain settings d = .ok n →
      value (domainFile known d n) = .error (.declaration e) →
      Own settings known d (.failed ⟨d.qualifiedName, e⟩)

def errorsOf (finding : String → Finding) : Outcome → List Finding
  | .made _ => []
  | .failed failure => [finding failure.cause.message]

theorem exists_of_mem_errorsOf {finding : String → Finding} {o : Outcome} {f : Finding}
    (h : f ∈ errorsOf finding o) : ∃ message, f = finding message := by
  cases o with
  | made => cases h
  | failed failure => exact ⟨_, List.mem_singleton.mp h⟩

/-- What is confined comes to a file or to a failure, which leaves its errors. -/
theorem value_outcome {domain : String} {finding : String → Finding}
    (hs : ∀ message, (finding message).severity = .error) {x : Generating SourceFile}
    (hc : Confined x) :
    ∃ o, value (x.attempt >>= outcome domain finding) = .ok o ∧
      ((∃ file, value x = .ok file ∧ o = .made file) ∨
        ∃ e, value x = .error (.declaration e) ∧ o = .failed ⟨domain, e⟩) ∧
      errorsIn (reports (x.attempt >>= outcome domain finding)) = errorsOf finding o := by
  rw [value_bind, reports_bind, value_attempt, reports_attempt, errorsIn_append,
    errorsIn_of_mild hc.mild]
  rcases hc.value_cases with ⟨file, hf⟩ | ⟨e, he⟩
  · rw [hf]
    exact ⟨.made file, rfl, Or.inl ⟨file, rfl, rfl⟩, rfl⟩
  · rw [he]
    refine ⟨.failed ⟨domain, e⟩, rfl, Or.inr ⟨e, rfl, rfl⟩, ?_⟩
    change errorsIn [.finding (finding e.message)] = [finding e.message]
    simp only [errorsIn, hs, if_true]

/-- A domain that is confined comes to what it comes to alone. -/
theorem own_domainOutcome (known : KnownDomains) (hn : ClassName.IsName d.qualifiedName)
    (hm : settings.MarkerNamed) (hp : ∀ p ∈ d.properties, p.Denoted ds) :
    ∃ o, value (domainOutcome settings known d) = .ok o ∧ Own settings known d o ∧
      errorsIn (reports (domainOutcome settings known d)) = errorsOf (domainFinding d) o := by
  obtain ⟨n, hname, hset⟩ := exists_naming settings hn
  have hc : Confined (domainFile known d n) := confined_domainFile known (hset ▸ hm) hp
  have hd : domainOutcome settings known d =
      liftM (Naming.ofDomain settings d) >>= fun n =>
        (domainFile known d n).attempt >>= outcome d.qualifiedName (domainFinding d) := rfl
  rw [hd, value_bind, reports_bind, value_liftM, reports_liftM, hname, ok_bind]
  dsimp only
  rw [List.nil_append]
  have hs : ∀ message, (domainFinding d message).severity = .error := fun _ => rfl
  obtain ⟨o, hv, ho, he⟩ := value_outcome hs hc
  refine ⟨o, hv, ?_, he⟩
  rcases ho with ⟨file, hf, rfl⟩ | ⟨e, hf, rfl⟩
  · exact .made hname hf
  · exact .failed hname hf

def errorsOfAll (ds : List DomainType) (os : List Outcome) : List Finding :=
  (List.zipWith (fun d o => errorsOf (domainFinding d) o) ds os).flatten

theorem errorsOfAll_cons (d : DomainType) (o : Outcome) (ds : List DomainType)
    (os : List Outcome) :
    errorsOfAll (d :: ds) (o :: os) = errorsOf (domainFinding d) o ++ errorsOfAll ds os := rfl

theorem exists_of_mem_errorsOfAll {f : Finding} (h : f ∈ errorsOfAll ds os) :
    ∃ d ∈ ds, ∃ message, f = domainFinding d message := by
  induction ds generalizing os with
  | nil => cases h
  | cons d ds ih =>
    cases os with
    | nil => cases h
    | cons o os =>
      rw [errorsOfAll_cons, List.mem_append] at h
      rcases h with h | h
      · exact ⟨d, List.mem_cons_self, exists_of_mem_errorsOf h⟩
      · obtain ⟨e, he, hm⟩ := ih h
        exact ⟨e, List.mem_cons_of_mem _ he, hm⟩

theorem own_domainOutcomes (known : KnownDomains)
    (hn : ∀ d ∈ ds, ClassName.IsName d.qualifiedName)
    (hm : settings.MarkerNamed) (hp : ∀ d ∈ ds, ∀ p ∈ d.properties, p.Denoted es) :
    ∃ os, value (domainOutcomes settings known ds) = .ok os ∧
      List.Forall₂ (Own settings known) ds os ∧
      errorsIn (reports (domainOutcomes settings known ds)) = errorsOfAll ds os := by
  induction ds with
  | nil => exact ⟨[], rfl, .nil, rfl⟩
  | cons d ds ih =>
    obtain ⟨hd, hds⟩ := List.forall_mem_cons.mp hn
    obtain ⟨hpd, hpds⟩ := List.forall_mem_cons.mp hp
    obtain ⟨o, hv, ho, he⟩ := own_domainOutcome known hd hm hpd
    obtain ⟨os, hvs, hos, hes⟩ := ih hds hpds
    refine ⟨o :: os, ?_, .cons ho hos, ?_⟩
    · unfold domainOutcomes
      rw [value_bind, hv, ok_bind, value_bind, hvs]
      rfl
    · unfold domainOutcomes
      rw [reports_bind, hv]
      dsimp only
      rw [reports_bind, hvs]
      dsimp only
      rw [reports_pure, List.append_nil, errorsIn_append, he, hes, errorsOfAll_cons]

theorem Own.unique {o₁ o₂ : Outcome} (h₁ : Own settings known d o₁)
    (h₂ : Own settings known d o₂) : o₁ = o₂ := by
  cases h₁ with
  | made hn hf =>
    cases h₂ with
    | made hm hg =>
      cases hn.symm.trans hm
      cases hf.symm.trans hg
      rfl
    | failed hm hg =>
      cases hn.symm.trans hm
      cases hf.symm.trans hg
  | failed hn hf =>
    cases h₂ with
    | made hm hg =>
      cases hn.symm.trans hm
      cases hf.symm.trans hg
    | failed hm hg =>
      cases hn.symm.trans hm
      cases hf.symm.trans hg
      rfl

def isFor (d : DomainType) (f : Finding) : Bool := f.domain == some d.qualifiedName

/-- The outcome is the one of the domain alone, and the errors tell the domain once if it failed and
not at all otherwise. -/
structure Alone (settings : Settings) (known : KnownDomains) (errors : List Finding)
    (d : DomainType) (o : Outcome) : Prop where
  own : Own settings known d o
  unique : ∀ other, Own settings known d other → other = o
  errors : errors.filter (isFor d) = errorsOf (domainFinding d) o

theorem filter_errorsOf_self (d : DomainType) (o : Outcome) :
    (errorsOf (domainFinding d) o).filter (isFor d) = errorsOf (domainFinding d) o := by
  cases o with
  | made => rfl
  | failed failure => simp [errorsOf, domainFinding, isFor]

theorem isFor_domainFinding {e : DomainType} (h : d.qualifiedName ≠ e.qualifiedName)
    (message : String) : isFor e (domainFinding d message) = false := by
  simpa [isFor, domainFinding] using h

theorem filter_isFor_eq_nil {fs : List Finding} (h : ∀ f ∈ fs, isFor d f = false) :
    fs.filter (isFor d) = [] := by
  rw [List.filter_eq_nil_iff]
  intro f hf
  rw [h f hf]
  exact Bool.false_ne_true

/-- Domains with names of their own have errors of their own among errors of other kinds. -/
theorem alone_of_own (ho : List.Forall₂ (Own settings known) ds os)
    (hn : (ds.map (·.qualifiedName)).Nodup) {before after : List Finding}
    (hb : ∀ d ∈ ds, ∀ f ∈ before, isFor d f = false)
    (ha : ∀ d ∈ ds, ∀ f ∈ after, isFor d f = false) :
    List.Forall₂ (Alone settings known (before ++ errorsOfAll ds os ++ after)) ds os := by
  induction ho generalizing before with
  | nil => exact .nil
  | @cons d o ds os ho _ ih =>
    obtain ⟨hbd, hbds⟩ := List.forall_mem_cons.mp hb
    obtain ⟨had, hads⟩ := List.forall_mem_cons.mp ha
    rw [List.map_cons, List.nodup_cons] at hn
    obtain ⟨hd, hn⟩ := hn
    have hne : ∀ e ∈ ds, e.qualifiedName ≠ d.qualifiedName := by
      intro e he heq
      exact hd (List.mem_map.mpr ⟨e, he, heq⟩)
    have hrest : ∀ f ∈ errorsOfAll ds os, isFor d f = false := by
      intro f hf
      obtain ⟨e, he, message, rfl⟩ := exists_of_mem_errorsOfAll hf
      exact isFor_domainFinding (hne e he) message
    rw [errorsOfAll_cons, ← List.append_assoc before]
    refine .cons ⟨ho, fun _ h => h.unique ho, ?_⟩ (ih hn ?_ hads)
    · simp only [List.filter_append, filter_isFor_eq_nil hbd, filter_isFor_eq_nil had,
        filter_isFor_eq_nil hrest, filter_errorsOf_self, List.nil_append, List.append_nil]
    · intro e he f hf
      rcases List.mem_append.mp hf with hf | hf
      · exact hbds e he f hf
      · obtain ⟨message, rfl⟩ := exists_of_mem_errorsOf hf
        exact isFor_domainFinding (fun heq => hne e he heq.symm) message

theorem before_nil (ds : List DomainType) : ∀ d ∈ ds, ∀ f ∈ [], isFor d f = false := by
  intro d _ f hf
  cases hf

/-- What the root domains come to: nothing where there are none, and else one file or failure. -/
inductive RootOwn (settings : Settings) (roots : List DomainType) : List Outcome → Prop where
  | absent : roots = [] → RootOwn settings roots []
  | made {file : SourceFile} : roots ≠ [] → value (RootFile.generate settings roots) = .ok file →
      RootOwn settings roots [.made file]
  | failed {e : DeclError} : roots ≠ [] →
      value (RootFile.generate settings roots) = .error (.declaration e) →
      RootOwn settings roots [.failed ⟨settings.rootFilePackage, e⟩]

theorem rootOwn_rootOutcomes (settings : Settings)
    (hn : ∀ d ∈ ds, ClassName.IsName d.qualifiedName) :
    ∃ os, value (rootOutcomes settings ds) = .ok os ∧ RootOwn settings ds os ∧
      errorsIn (reports (rootOutcomes settings ds)) = os.flatMap (errorsOf rootFinding) := by
  cases ds with
  | nil => exact ⟨[], rfl, .absent rfl, rfl⟩
  | cons d ds =>
    have hc := RootFile.confined_generate settings hn
    have hassoc : rootOutcomes settings (d :: ds) =
        ((RootFile.generate settings (d :: ds)).attempt >>=
          outcome settings.rootFilePackage rootFinding) >>= fun o => pure [o] := by
      rw [bind_assoc]
      rfl
    rw [hassoc, value_bind, reports_bind]
    have hs : ∀ message, (rootFinding message).severity = .error := fun _ => rfl
    obtain ⟨o, hv, ho, he⟩ := value_outcome hs hc
    refine ⟨[o], by rw [hv]; rfl, ?_, ?_⟩
    · rcases ho with ⟨file, hf, rfl⟩ | ⟨e, hf, rfl⟩
      · exact .made (List.cons_ne_nil d ds) hf
      · exact .failed (List.cons_ne_nil d ds) hf
    · rw [hv, errorsIn_append, he]
      rfl

/-- What the root domains come to by themselves, told by the errors that name no domain. -/
structure RootAlone (settings : Settings) (errors : List Finding) (roots : List DomainType)
    (os : List Outcome) : Prop where
  own : RootOwn settings roots os
  errors : errors.filter (·.domain == none) = os.flatMap (errorsOf rootFinding)

theorem domain_of_mem_rootErrors {f : Finding} (h : f ∈ os.flatMap (errorsOf rootFinding)) :
    f.domain = none := by
  obtain ⟨o, _, hf⟩ := List.mem_flatMap.mp h
  obtain ⟨message, rfl⟩ := exists_of_mem_errorsOf hf
  rfl

theorem domain_of_mem_errorsOfAll {f : Finding} (h : f ∈ errorsOfAll ds os) : f.domain ≠ none := by
  obtain ⟨d, _, message, rfl⟩ := exists_of_mem_errorsOfAll h
  exact Option.some_ne_none _

theorem length_of_rootOwn {os : List Outcome} (h : RootOwn settings (ds.filter (·.isRoot)) os) :
    os.length = if ds.any (·.isRoot) then 1 else 0 := by
  have any_of_ne : ds.filter (·.isRoot) ≠ [] → ds.any (·.isRoot) = true := by
    intro hne
    simpa [List.filter_eq_nil_iff] using hne
  cases h with
  | absent hn =>
    rw [List.filter_eq_nil_iff] at hn
    rw [if_neg (by simpa using hn)]
    rfl
  | made hne _ =>
    rw [if_pos (any_of_ne hne)]
    rfl
  | failed hne _ =>
    rw [if_pos (any_of_ne hne)]
    rfl

theorem value_sayAll (rs : List Report) : value (sayAll rs) = .ok () := by
  induction rs with
  | nil => rfl
  | cons r rs ih =>
    unfold sayAll
    rw [value_bind, value_say, ok_bind, ih]

theorem errorsIn_sayAll {rs : List Report} (h : ∀ r ∈ rs, r.Mild) :
    errorsIn (reports (sayAll rs)) = [] := by
  induction rs with
  | nil => rfl
  | cons r rs ih =>
    obtain ⟨hr, hrs⟩ := List.forall_mem_cons.mp h
    unfold sayAll
    rw [reports_bind, value_say, reports_say]
    dsimp only
    rw [errorsIn_append, ih hrs, errorsIn_of_mild (by simpa using hr)]
    rfl

theorem mild_settingsNotes (settings : Settings) : ∀ r ∈ settingsNotes settings, r.Mild := by
  intro r hr
  simp only [settingsNotes, List.mem_cons, List.not_mem_nil, or_false] at hr
  rcases hr with rfl | rfl | rfl <;> exact trivial

/-- A pass comes to the outcomes of its domains and roots, and has no errors but theirs. -/
theorem run_of_outcomes (hi : settings.isIgnored = false) {files root : List Outcome}
    (hf : value (domainOutcomes settings (.ofList ds) ds) = .ok files)
    (hr : value (rootOutcomes settings (ds.filter (·.isRoot))) = .ok root) :
    value (run settings ds) = .ok { outcomes := files ++ root } ∧
      errorsIn (reports (run settings ds)) =
        errorsIn (reports (domainOutcomes settings (.ofList ds) ds)) ++
          errorsIn (reports (rootOutcomes settings (ds.filter (·.isRoot)))) := by
  have he := errorsIn_sayAll (mild_settingsNotes settings)
  unfold run
  rw [hi, if_neg Bool.false_ne_true]
  constructor
  · simp only [value_bind, value_debug, ok_bind, value_sayAll, hf, hr, value_say, value_pure]
  · simp only [reports_bind, value_debug, reports_debug, value_sayAll, hf, hr, value_say, reports_say,
      reports_pure, errorsIn_append, he]
    simp [errorsIn]

theorem run_of_ignored (hi : settings.isIgnored = true) :
    value (run settings ds) = .ok { skipped := true } := by
  unfold run
  rw [hi, if_pos rfl]
  rfl

/-- A pass over an accepted document has a result, in which every domain has the outcome that it has
alone, in the order of the document and followed by that of the roots. -/
theorem run_isolates {text : String} {options : Entries} {doc : Document} {settings : Settings}
    (hd : Document.ofText text = .ok doc) (hs : Settings.ofOptions options = .ok settings)
    (hi : settings.isIgnored = false)
    (hm : ∀ m, settings.marker = some m → ∃ s ∈ Text.segments '.' m, s ≠ "") :
    ∃ files root result, value (run settings doc.domains) = .ok result ∧
      result.skipped = false ∧ result.outcomes = files ++ root ∧
      (∀ debugEnabled errors,
        (Journal.ofReports debugEnabled (reports (run settings doc.domains))).errors = errors →
        List.Forall₂ (Alone settings (.ofList doc.domains) errors) doc.domains files ∧
          RootAlone settings errors (doc.domains.filter (·.isRoot)) root) ∧
      result.files.length + result.failures.length =
        doc.domains.length + if doc.domains.any (·.isRoot) then 1 else 0 := by
  obtain ⟨hdistinct, hnamed, hdenoted⟩ := Document.closed_of_ofText hd
  have hmarker := (Settings.markerNamed_iff hs).mpr hm
  obtain ⟨files, hf, hown, he⟩ :=
    own_domainOutcomes (.ofList doc.domains) hnamed hmarker hdenoted
  have hroots : ∀ d ∈ doc.domains.filter (·.isRoot), ClassName.IsName d.qualifiedName :=
    fun d hd => hnamed d (List.mem_filter.mp hd).1
  obtain ⟨root, hr, hroot, her⟩ := rootOwn_rootOutcomes settings hroots
  obtain ⟨hv, hve⟩ := run_of_outcomes hi hf hr
  rw [he, her] at hve
  refine ⟨files, root, _, hv, rfl, rfl, ?_, ?_⟩
  · intro debugEnabled errors herrors
    rw [Journal.errors_ofReports, hve] at herrors
    subst herrors
    refine ⟨?_, hroot, ?_⟩
    · refine alone_of_own hown hdistinct (before_nil doc.domains) ?_
      intro d _ f hf
      simp [isFor, domain_of_mem_rootErrors hf]
    · rw [List.filter_append, List.filter_eq_nil_iff.mpr, List.nil_append,
        List.filter_eq_self.mpr]
      · intro f hf
        simp [domain_of_mem_rootErrors hf]
      · intro f hf
        simpa using domain_of_mem_errorsOfAll hf
  · rw [PassResult.length_files_add_length_failures, List.length_append, length_of_rootOwn hroot,
      hown.length_eq]

def markedOptions (marker : String) : Entries :=
  [(.text "projectRootClasspath", .scalar (.text "io.x")),
    (.text "dslBuilderClasspath", .scalar (.text "io.y")),
    (.text "dslMarkerClass", .scalar (.text marker))]

def markedSettings (marker : String) : Settings :=
  { projectRoot := "io.x", contractPackage := "io.y", marker := some marker }

/-- The template of the first domain is no template, and the second domain is a root. -/
def mixedText : String :=
  "transforms: \x7bB: \x7binputType: B, template: a%\x7d\x7d\ndomains:\n- name: A\n"
    ++ "  properties: [\x7bname: b, type: B\x7d]\n- \x7bname: B, root: 1\x7d"

/-- One domain fails, which leaves the only error, and the files of the other and of the root are
made. -/
theorem run_isolates_mixedText :
    ∃ doc files root result errors, Document.ofText mixedText = .ok doc ∧
      Settings.ofOptions (markedOptions "M") = .ok (markedSettings "M") ∧
      value (run (markedSettings "M") doc.domains) = .ok result ∧
      (Journal.ofReports false (reports (run (markedSettings "M") doc.domains))).errors = errors ∧
      result.files.length = 2 ∧ result.failures.length = 1 ∧ errors.length = 1 ∧
      result.outcomes = files ++ root ∧
      List.Forall₂ (Alone (markedSettings "M") (.ofList doc.domains) errors) doc.domains files ∧
      RootAlone (markedSettings "M") errors (doc.domains.filter (·.isRoot)) root := by
  have hy : yields (Document.ofText mixedText) (fun doc =>
      (Journal.ofReports false (reports (run (markedSettings "M") doc.domains))).errors.length == 1
      && yields (value (run (markedSettings "M") doc.domains)) fun result =>
        result.files.length == 2 && result.failures.length == 1) = true := by decide +kernel
  obtain ⟨doc, hd, hy⟩ := exists_of_yields hy
  obtain ⟨he, hy⟩ := (Bool.and_eq_true _ _).mp hy
  obtain ⟨result, hv, hy⟩ := exists_of_yields hy
  have hs : Settings.ofOptions (markedOptions "M") = .ok (markedSettings "M") := rfl
  have hm : ∀ m, (markedSettings "M").marker = some m → ∃ s ∈ Text.segments '.' m, s ≠ "" := by
    intro m hm
    cases hm
    exact ⟨"M", by decide, by decide⟩
  obtain ⟨files, root, other, hr, _, ho, hf, _⟩ := run_isolates hd hs rfl hm
  obtain ⟨ha, hroot⟩ := hf false _ rfl
  rw [hv] at hr
  cases hr
  rw [Bool.and_eq_true, beq_iff_eq, beq_iff_eq] at hy
  exact ⟨doc, files, root, result, _, hd, hs, hv, rfl, hy.1, hy.2, beq_iff_eq.mp he, ho, ha, hroot⟩

end Pass

end FluentKotlin
