import FluentKotlin.Generation.Generate
import FluentKotlin.Proofs.Report.Performed

/-! # Passes with and without debugging

Whether the journal of a pass is asked for debug lines shows nowhere but in the debug lines.
-/

namespace FluentKotlin

namespace Pass

open Journaling

/-- A pass from ready settings hands over what its run comes to, with the findings of the journal
that the reports of the run make. -/
theorem outcome_generate_ready (settings : Settings) (domains : List DomainType) (debug : Bool) :
    (generate (.ready settings) domains).outcome { debugEnabled := debug } =
      (((run settings domains).value.mapError .name).map fun result =>
          ⟨result, (Journal.ofReports debug (run settings domains).reports).findings⟩,
        .ofReports debug (run settings domains).reports) := by
  have hsettings : (ofExcept ((Options.ready settings).settings.mapError .settings) :
      Journaling GenerateError Settings) = pure settings := rfl
  have hreports : (Reporting.mapError GenerateError.name (run settings domains)).reports =
      (run settings domains).reports := rfl
  have hvalue : (Reporting.mapError GenerateError.name (run settings domains)).value =
      (run settings domains).value.mapError .name := rfl
  unfold generate
  rw [hsettings, pure_bind, Stateful.outcome_bind, outcome_perform, hreports, hvalue]
  cases (run settings domains).value <;> rfl

theorem indifferent_generate (options : Options) (domains : List DomainType) :
    Indifferent (generate options domains) :=
  (indifferent_ofExcept _).bind fun _ => (indifferent_perform _).bind fun _ =>
    indifferent_findings.bind fun _ => indifferent_pure _

/-- With debugging on and off, a pass over the same domains ends in the same error or hands over the
same files, failures and findings, and the log is the same without its debug lines. -/
theorem generate_debugEnabled (options : Options) (domains : List DomainType) (j : Journal) :
    ((generate options domains).outcome { j with debugEnabled := true }).1 =
        ((generate options domains).outcome { j with debugEnabled := false }).1 ∧
      ((generate options domains).outcome { j with debugEnabled := true }).2.plainLines =
        ((generate options domains).outcome { j with debugEnabled := false }).2.plainLines := by
  obtain ⟨hvalue, hjournal⟩ := indifferent_generate options domains _ _
    (Journal.alike_debugEnabled j true false)
  exact ⟨hvalue, hjournal.plainLines⟩

/-- Three settings and the start are noted for debugging, and the end is told anyway. -/
example : ((generate (.ready ⟨"p", "c", none, none, false⟩) []).outcome
    { debugEnabled := true }).2.lines.map (·.level) =
      [.debug, .debug, .debug, .debug, .debug, .info] := by decide +kernel

end Pass

end FluentKotlin
