import FluentKotlin.Generation.Pass
import FluentKotlin.Report.Journaling

/-! # A pass on a journal

A pass is performed on the journal of its program, from settings or from the entries that give them,
and its findings are those of the journal.
-/

namespace FluentKotlin

namespace Pass

open Journaling

/-- Settings, or entries that have to be read for them. -/
inductive Options where
  | ready (settings : Settings)
  | mapping (entries : List (Scalar × Value))

def Options.settings : Options → Except SettingsError Settings
  | ready settings => .ok settings
  | mapping entries => Settings.ofOptions entries

inductive GenerateError where
  | settings (e : SettingsError)
  | name (e : NameError)

/-- What a pass hands over. -/
structure Generated extends PassResult where
  diagnostics : List Finding

def generate (options : Options) (domains : List DomainType) :
    Journaling GenerateError Generated := do
  let settings ← ofExcept (options.settings.mapError .settings)
  let result ← perform (Reporting.mapError .name (run settings domains))
  return { result with diagnostics := ← findings }

end Pass

end FluentKotlin
