import FluentKotlin.Report.Journal
import FluentKotlin.Stateful

/-! # Programs that keep a journal

To perform a computation is to write each of its reports into the journal where it is made, so that
the reports before an error are in the journal too.
-/

namespace FluentKotlin

abbrev Journaling (ε α : Type) := Stateful ε Journal α

namespace Journaling

variable {ε α : Type}

def report (r : Report) : Journaling ε Unit := modify (·.add r)

def reportAll : List Report → Journaling ε Unit
  | [] => pure ()
  | r :: rs => do
    report r
    reportAll rs

def perform (x : Reporting ε α) : Journaling ε α := do
  reportAll x.run.reports
  ofExcept x.run.value

/-- The findings of the journal so far. -/
def findings : Journaling ε (List Finding) := return (← get).findings

end Journaling

end FluentKotlin
