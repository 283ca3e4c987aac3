import FluentKotlin.Proofs.Report.Value

/-! # Computations that settle

A computation settles when it comes to a result and reports no error on the way. Settling passes
from the steps of a computation to the whole.
-/

namespace FluentKotlin

def Report.Mild : Report → Prop
  | .finding f => f.severity = .warning
  | _ => True

namespace Reporting

variable {ε δ α β : Type}

/-- The computation has a result, and no report on the way to it is an error. -/
structure Settles (x : Reporting ε α) : Prop where
  returns : ∃ a, value x = .ok a
  mild : Says Report.Mild x

theorem Settles.pure (a : α) : Settles (Pure.pure a : Reporting ε α) :=
  ⟨⟨a, rfl⟩, .of_nil rfl⟩

theorem Settles.liftM {x : Except ε α} (h : ∃ a, x = .ok a) :
    Settles (liftM x : Reporting ε α) :=
  ⟨h, .of_nil rfl⟩

theorem Settles.debug (tier : Int) (branch : Bool) (message : String) :
    Settles (Reporting.debug tier branch message : Reporting ε Unit) :=
  ⟨⟨(), rfl⟩, .say trivial⟩

theorem Settles.warn {f : Finding} (h : f.severity = .warning) :
    Settles (Reporting.warn f : Reporting ε Unit) :=
  ⟨⟨(), rfl⟩, .say h⟩

theorem Settles.bind {x : Reporting ε α} {f : α → Reporting ε β} (hx : Settles x)
    (hf : ∀ a, value x = .ok a → Settles (f a)) : Settles (x >>= f) := by
  obtain ⟨a, ha⟩ := hx.returns
  obtain ⟨b, hb⟩ := (hf a ha).returns
  constructor
  · refine ⟨b, ?_⟩
    rw [value_bind, ha]
    exact hb
  · exact hx.mild.bind fun c hc => (hf c hc).mild

end Reporting

end FluentKotlin
