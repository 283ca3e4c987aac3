import FluentKotlin.Kotlin.Draft
import FluentKotlin.Report.Basic

/-! # Faults of generation

Generating a file fails on a declaration that breaks a rule, which is a failure of that file, or on
a name that denotes nothing, which ends the whole pass.
-/

namespace FluentKotlin

inductive Fault where
  | name (e : NameError)
  | declaration (e : DeclError)
  deriving Inhabited

abbrev Generating := Reporting Fault

namespace Generating

def ofName {α : Type} (x : Except NameError α) : Generating α :=
  Reporting.ofExcept (x.mapError .name)

def ofDecl {α : Type} (x : Except DeclError α) : Generating α :=
  Reporting.ofExcept (x.mapError .declaration)

/-- The outcome of a file, unless the pass has to end. -/
def attempt {α : Type} (x : Generating α) : Reporting NameError (Except DeclError α) :=
  match x.run with
  | ⟨.ok a, reports⟩ => ⟨.ok (.ok a), reports⟩
  | ⟨.error (.declaration e), reports⟩ => ⟨.ok (.error e), reports⟩
  | ⟨.error (.name e), reports⟩ => ⟨.error e, reports⟩

end Generating

end FluentKotlin
