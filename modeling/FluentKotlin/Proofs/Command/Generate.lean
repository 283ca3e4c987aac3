import FluentKotlin.Proofs.Generation.Debugging
import FluentKotlin.Proofs.Generation.Rendering
import FluentKotlin.Proofs.Store.Grounded

/-! # What a run does to the files

A run that is refused, and one whose pass is ignored, leave every file and directory as it was. Any
other run that generates writes all files of the pass and touches no other file.
-/

namespace FluentKotlin

open Reporting

/-- The run does not go on to its end. -/
inductive Ending.Stops : Ending → Prop where
  | refused (messages : List String) (reason : String) : Stops (.refused messages reason)
  | broken (cause : Breakdown) : Stops (.broken cause)

namespace Ending

theorem Stops.code_eq {code : Nat} {output messages : List String}
    (h : Stops (.done code output messages)) : code = refusalCode := by
  generalize he : Ending.done code output messages = e at h
  cases h with
  | refused =>
    cases he
    rfl
  | broken => cases he

theorem stops_ofDocumentError (e : DocumentError) : (ofDocumentError e).Stops := by
  unfold ofDocumentError
  split
  · exact .refused _ _
  · exact .broken _

theorem stops_ofSettingsError (e : SettingsError) : (ofSettingsError e).Stops := by
  unfold ofSettingsError
  split
  · exact .refused _ _
  · exact .broken _

end Ending

namespace Request

variable {directory path destination : Path} {r : Request} {t t' : FileTree} {e : Ending}

theorem run_readDomainFile_eq_ok {found : Option String}
    (h : (r.readDomainFile directory : Filing _).run t = .ok (found, t')) : t' = t := by
  unfold readDomainFile at h
  obtain ⟨kind, mid, hk, hrest⟩ := Filing.run_bind_eq_ok h
  obtain rfl := Filing.run_kind?_eq_ok hk
  split at hrest
  · obtain ⟨text, _, hr, hend⟩ := Filing.run_bind_eq_ok hrest
    obtain rfl := Filing.run_read_eq_ok hr
    cases hend
    rfl
  · cases hrest
    rfl

/-- A request goes on with the document of its file, or it stops before it touches any file. -/
theorem run_withDocument_eq_ok {next : Document → Filing Ending}
    (h : (r.withDocument directory next : Filing _).run t = .ok (e, t')) :
    e.Stops ∧ t' = t ∨
      ∃ text doc, (r.readDomainFile directory : Filing _).run t = .ok (some text, t) ∧
        Document.ofText text = .ok doc ∧ (next doc).run t = .ok (e, t') := by
  unfold withDocument at h
  obtain ⟨found, mid, hf, hrest⟩ := Filing.run_bind_eq_ok h
  obtain rfl := run_readDomainFile_eq_ok hf
  cases found with
  | none =>
    cases hrest
    exact .inl ⟨.refused _ _, rfl⟩
  | some text =>
    dsimp only at hrest
    cases hd : Document.ofText text with
    | ok doc =>
      rw [hd] at hrest
      exact .inr ⟨text, doc, hf, hd, hrest⟩
    | error fault =>
      rw [hd] at hrest
      cases hrest
      exact .inl ⟨Ending.stops_ofDocumentError fault, rfl⟩

theorem exists_textless_of_run_writeFiles {fs : List SourceFile} {fault : FormatError}
    (h : (writeFiles destination fs : Filing _).run t = .ok (.error fault, t')) :
    ∃ f ∈ fs, f.text = .error fault := by
  induction fs generalizing t with
  | nil => cases h
  | cons f fs ih =>
    unfold writeFiles at h
    cases hf : f.text with
    | error found =>
      rw [hf] at h
      cases h
      exact ⟨f, List.mem_cons_self, hf⟩
    | ok text =>
      rw [hf] at h
      obtain ⟨_, mid, _, hrest⟩ := Filing.run_bind_eq_ok h
      obtain ⟨g, hg, he⟩ := ih hrest
      exact ⟨g, List.mem_cons_of_mem _ hg, he⟩

/-- Each place has the last file for it, and no other file is touched. -/
structure Wrote (destination : Path) (files : List SourceFile) (t t' : FileTree) : Prop where
  last : ∀ before f after, files = before ++ f :: after →
    (∀ g ∈ after, place destination g ≠ place destination f) →
    ∃ text, f.text = .ok text ∧ t'.Holds (entryNames destination f) text
  kept : ∀ w, (∀ f ∈ files, place destination f ≠ w) → t'.fileAt w = t.fileAt w

theorem wrote_of_run_writeFiles {fs : List SourceFile}
    (h : (writeFiles destination fs : Filing _).run t = .ok (.ok (), t')) :
    Wrote destination fs t t' := by
  refine ⟨?_, fun w hw => fileAt_of_run_writeFiles h hw⟩
  rintro before f after rfl hlast
  exact holds_of_run_writeFiles h hlast

def passCode (result : PassResult) : Nat := if result.isOk then 0 else Ending.failureCode

theorem passCode_cases (result : PassResult) :
    passCode result = 0 ∧ result.failures = [] ∨ passCode result = 1 ∧ result.failures ≠ [] := by
  unfold passCode PassResult.isOk
  cases result.failures with
  | nil => exact .inl ⟨rfl, rfl⟩
  | cons f fs => exact .inr ⟨rfl, List.cons_ne_nil f fs⟩

variable {result : PassResult} {messages : List String}

theorem run_writeResult_eq_ok (hf : ∀ f ∈ result.files, ∃ text, f.text = .ok text)
    (h : (writeResult destination result messages : Filing _).run t = .ok (e, t')) :
    Wrote destination result.files t t' ∧ ∃ said, e = .done (passCode result) [] said := by
  unfold writeResult at h
  obtain ⟨written, mid, hw, hrest⟩ := Filing.run_bind_eq_ok h
  cases written with
  | error fault =>
    obtain ⟨f, hmem, he⟩ := exists_textless_of_run_writeFiles hw
    obtain ⟨text, ht⟩ := hf f hmem
    rw [he] at ht
    cases ht
  | ok u =>
    cases hrest
    exact ⟨wrote_of_run_writeFiles hw, _, rfl⟩

theorem run_useDestination_eq_ok (hg : t.Grounded)
    (hf : ∀ f ∈ result.files, ∃ text, f.text = .ok text)
    (h : (r.useDestination directory path result messages : Filing _).run t = .ok (e, t')) :
    e.Stops ∧ t' = t ∨ ∃ destination said, Filing.resolve directory path = .ok destination ∧
      Wrote destination result.files t t' ∧ e = .done (passCode result) [] said := by
  unfold useDestination at h
  obtain ⟨destination, _, hresolve, hrest⟩ := Filing.run_bind_eq_ok h
  obtain ⟨hd, rfl⟩ := Filing.run_resolve_eq_ok hresolve
  obtain ⟨_, _, hmade, hrest⟩ := Filing.run_bind_eq_ok hrest
  have hm := Filing.run_makeDirectory_eq_ok hmade
  obtain ⟨empty, made, he, hrest⟩ := Filing.run_bind_eq_ok hrest
  obtain ⟨rfl, rfl⟩ := Filing.run_isEmpty_eq_ok he
  cases hmay : r.has .overwrite || !made.hasInside (Filing.shown destination).names with
  | true =>
    rw [hmay, if_pos rfl] at hrest
    obtain ⟨hw, said, hsaid⟩ := run_writeResult_eq_ok hf hrest
    refine .inr ⟨destination, said, hd, ⟨hw.last, fun w hw' => ?_⟩, hsaid⟩
    exact (hw.kept w hw').trans (FileTree.fileAt_makeDirectories hm w)
  | false =>
    rw [hmay, if_neg Bool.false_ne_true] at hrest
    cases hrest
    have hinside : t'.hasInside (Filing.shown destination).names = true := by
      rw [Bool.or_eq_false_iff, Bool.not_eq_false'] at hmay
      exact hmay.2
    exact .inl ⟨.refused _ _, FileTree.eq_of_hasInside hg hm hinside⟩

theorem run_finishPass_eq_ok (hg : t.Grounded)
    (hf : ∀ f ∈ result.files, ∃ text, f.text = .ok text)
    (h : (r.finishPass directory result messages : Filing _).run t = .ok (e, t')) :
    e.Stops ∧ t' = t ∨ ∃ path destination said, r.destination? = some path ∧
      Filing.resolve directory path = .ok destination ∧ Wrote destination result.files t t' ∧
      e = .done (passCode result) [] said := by
  unfold finishPass at h
  cases hp : r.destination? with
  | none =>
    rw [hp] at h
    cases h
    exact .inl ⟨.broken _, rfl⟩
  | some path =>
    rw [hp] at h
    refine (run_useDestination_eq_ok hg hf h).imp_right ?_
    rintro ⟨destination, said, hd, hw, he⟩
    exact ⟨path, destination, said, rfl, hd, hw, he⟩

/-- The request is for a pass with these settings and this result. -/
def HasPass (directory : Path) (r : Request) (t : FileTree) (settings : Settings)
    (result : PassResult) : Prop :=
  ∃ text doc, (r.readDomainFile directory : Filing _).run t = .ok (some text, t) ∧
    Document.ofText text = .ok doc ∧
    Settings.ofOptions (r.settingsEntries doc.options) = .ok settings ∧
    value (Pass.run settings doc.domains) = .ok result

/-- A request to generate stops and leaves the files as they are, or has a pass. A pass that is
ignored leaves them too, and any other is written. -/
theorem run_generate_eq_ok (hg : t.Grounded) (hc : r.command = .generate)
    (h : (r.run directory : Filing _).run t = .ok (e, t')) :
    e.Stops ∧ t' = t ∨
      ∃ settings result code said, r.HasPass directory t settings result ∧
        e = .done code [] said ∧
        ((settings.isIgnored = true ∧ code = 0 ∧ t' = t) ∨
          (settings.isIgnored = false ∧
            (code = 0 ∧ result.failures = [] ∨ code = 1 ∧ result.failures ≠ []) ∧
            ∃ path destination, r.destination? = some path ∧
              Filing.resolve directory path = .ok destination ∧
              Wrote destination result.files t t')) := by
  unfold run at h
  rw [hc] at h
  rcases run_withDocument_eq_ok h with hstop | ⟨text, doc, hread, hdoc, hnext⟩
  · exact .inl hstop
  unfold generate at hnext
  cases hs : Settings.ofOptions (r.settingsEntries doc.options) with
  | error fault =>
    rw [hs] at hnext
    cases hnext
    exact .inl ⟨Ending.stops_ofSettingsError fault, rfl⟩
  | ok settings =>
    rw [hs] at hnext
    dsimp only at hnext
    rw [Pass.outcome_generate_ready] at hnext
    cases hr : value (Pass.run settings doc.domains) with
    | error fault =>
      rw [hr] at hnext
      cases hnext
      exact .inl ⟨.broken _, rfl⟩
    | ok result =>
      rw [hr] at hnext
      dsimp only [Except.mapError, Except.map] at hnext
      have hpass : r.HasPass directory t settings result := ⟨text, doc, hread, hdoc, hs, hr⟩
      have hskipped : result.skipped = settings.isIgnored := Pass.skipped_eq_isIgnored hr
      rw [hskipped] at hnext
      cases hi : settings.isIgnored with
      | true =>
        rw [hi] at hnext
        cases hnext
        exact .inr ⟨settings, result, 0, _, hpass, rfl, .inl ⟨hi, rfl, rfl⟩⟩
      | false =>
        rw [hi, if_neg Bool.false_ne_true] at hnext
        have htexts : ∀ f ∈ result.files, ∃ text, f.text = .ok text :=
          fun _ hf => Pass.exists_text_of_mem_files hr hf
        refine (run_finishPass_eq_ok hg htexts hnext).imp_right ?_
        rintro ⟨path, destination, said, hp, hd, hw, he⟩
        exact ⟨settings, result, _, said, hpass, he,
          .inr ⟨hi, passCode_cases result, path, destination, hp, hd, hw⟩⟩

theorem run_schemas_eq_ok (hc : r.command = .schemas)
    (h : (r.run directory : Filing _).run t = .ok (e, t')) : t' = t := by
  unfold run at h
  rw [hc] at h
  rcases run_withDocument_eq_ok h with ⟨_, rfl⟩ | ⟨_, _, _, _, hnext⟩
  · rfl
  · cases hnext
    rfl

end Request

/-- A run with status 2 touches no file and no directory, and neither does one whose pass is
ignored. Any other run to generate puts the text of every file of the pass in its place, the last
one of those with the same place, touches no other file, and has status 1 exactly where the pass
has failures. -/
theorem runArguments_generate {directory : Path} {words : List String} {t t' : FileTree}
    {code : Nat} {output messages : List String} (hg : t.Grounded)
    (h : (runArguments directory words : Filing Ending).run t =
      .ok (.done code output messages, t')) :
    (code = 2 → t' = t) ∧
      ∀ r, Request.ofArguments words = .ok (some r) → r.command = .generate → code ≠ 2 →
        ∃ settings result, r.HasPass directory t settings result ∧
          ((settings.isIgnored = true ∧ code = 0 ∧ t' = t) ∨
            (settings.isIgnored = false ∧
              (code = 0 ∧ result.failures = [] ∨ code = 1 ∧ result.failures ≠ []) ∧
              ∃ path destination, r.destination? = some path ∧
                Filing.resolve directory path = .ok destination ∧
                Request.Wrote destination result.files t t')) := by
  unfold runArguments at h
  cases ha : Request.ofArguments words with
  | error fault =>
    rw [ha] at h
    cases h
    refine ⟨fun _ => rfl, fun r hr => ?_⟩
    cases hr
  | ok found =>
    rw [ha] at h
    cases found with
    | none =>
      cases h
      refine ⟨fun _ => rfl, fun r hr => ?_⟩
      cases hr
    | some r =>
      dsimp only at h
      cases hc : r.command with
      | schemas =>
        refine ⟨fun _ => Request.run_schemas_eq_ok hc h, ?_⟩
        rintro _ hr hgenerate
        cases hr
        rw [hc] at hgenerate
        cases hgenerate
      | generate =>
        rcases Request.run_generate_eq_ok hg hc h with
          ⟨hstop, rfl⟩ | ⟨settings, result, _, said, hp, he, hcase⟩
        · exact ⟨fun _ => rfl, fun _ _ _ hne => absurd hstop.code_eq hne⟩
        · cases he
          refine ⟨fun htwo => ?_, ?_⟩
          · rcases hcase with ⟨_, hzero, _⟩ | ⟨_, hcode, _⟩ <;> omega
          · rintro _ hr _ _
            cases hr
            exact ⟨settings, result, hp, hcase⟩

def singleTree : FileTree := ⟨[("d", .file "domains: [\x7bname: A\x7d]")]⟩

theorem grounded_singleTree : singleTree.Grounded := by
  intro e he names hi
  obtain rfl := List.mem_singleton.mp he
  by_cases hne : names = []
  · rw [hne]
    rfl
  · have hprefix := (FileTree.isInside_iff hne).mp hi
    have hslash : '/' ∈ ("d" : String).toList := hprefix.subset (by simp [String.toList_append])
    exact absurd hslash (by decide)

def wordsInto (destination : String) : List String :=
  ["generate", "d", "--project-root", "x", "--dsl-builder-classpath", "y", "--out", destination]

def Ending.code? : Ending → Option Nat
  | done code _ _ => some code
  | broken _ => none

theorem Ending.exists_of_code? {e : Ending} {code : Nat} (h : e.code? = some code) :
    ∃ output messages, e = .done code output messages := by
  cases e with
  | done c output messages =>
    cases h
    exact ⟨output, messages, rfl⟩
  | broken cause => cases h

/-- A directory of its own is written into, and the root, where the domain file is, is refused. -/
theorem runArguments_generate_singleTree :
    (∃ output said t', ∃ (r : Request) (settings : Settings) (result : PassResult)
        (destination : Path),
      (runArguments ⟨"/", []⟩ (wordsInto "o") : Filing Ending).run singleTree =
        .ok (.done 0 output said, t') ∧
      r.HasPass ⟨"/", []⟩ singleTree settings result ∧ result.failures = [] ∧ t' ≠ singleTree ∧
      Request.Wrote destination result.files singleTree t') ∧
    ∃ output said,
      (runArguments ⟨"/", []⟩ (wordsInto "/") : Filing Ending).run singleTree =
        .ok (.done 2 output said, singleTree) := by
  constructor
  · have hy : yields ((runArguments ⟨"/", []⟩ (wordsInto "o") : Filing Ending).run singleTree)
        (fun p => p.1.code? == some 0 && p.2 != singleTree) = true := by decide +kernel
    obtain ⟨⟨e, t'⟩, hrun, hy⟩ := exists_of_yields hy
    obtain ⟨hcode, hne⟩ := (Bool.and_eq_true _ _).mp hy
    obtain ⟨output, said, rfl⟩ := Ending.exists_of_code? (beq_iff_eq.mp hcode)
    have hne : t' ≠ singleTree := by simpa using hne
    obtain ⟨r, hr, hc⟩ : ∃ r, Request.ofArguments (wordsInto "o") = .ok (some r) ∧
        r.command = .generate := ⟨_, rfl, rfl⟩
    obtain ⟨settings, result, hp, hcase⟩ :=
      (runArguments_generate grounded_singleTree hrun).2 r hr hc (by decide)
    rcases hcase with ⟨_, _, h⟩ | ⟨_, hfailures, _, destination, _, _, hw⟩
    · exact absurd h hne
    · have hnone : result.failures = [] := by
        rcases hfailures with ⟨_, h⟩ | ⟨h, _⟩
        · exact h
        · cases h
      exact ⟨output, said, t', r, settings, result, destination, hrun, hp, hnone, hne, hw⟩
  · have hy : yields ((runArguments ⟨"/", []⟩ (wordsInto "/") : Filing Ending).run singleTree)
        (fun p => p.1.code? == some 2) = true := by decide +kernel
    obtain ⟨⟨e, t'⟩, hrun, hy⟩ := exists_of_yields hy
    obtain ⟨output, said, rfl⟩ := Ending.exists_of_code? (beq_iff_eq.mp hy)
    have ht := (runArguments_generate grounded_singleTree hrun).1 rfl
    exact ⟨output, said, ht ▸ hrun⟩

end FluentKotlin
