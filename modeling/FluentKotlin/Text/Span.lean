/-! # Spans of code points

A character class is a finite list of spans. A span walks an interval in equal steps, so
that an alternating block of capital and small letters takes one entry.
-/

namespace FluentKotlin.Text

structure Span where
  first : Nat
  last : Nat
  step : Nat
  deriving DecidableEq, Repr

namespace Span

/-- The span holds `first`, `first + step`, and so on up to `last`. -/
def covers (s : Span) (n : Nat) : Bool :=
  decide (s.first ≤ n) && decide (n ≤ s.last) && (n - s.first) % s.step == 0

theorem covers_iff (s : Span) (n : Nat) :
    s.covers n = true ↔ s.first ≤ n ∧ n ≤ s.last ∧ (n - s.first) % s.step = 0 := by
  simp [covers, and_assoc]

theorem covers_interval_iff {first last n : Nat} :
    (Span.mk first last 1).covers n = true ↔ first ≤ n ∧ n ≤ last := by
  simp [covers_iff, Nat.mod_one]

end Span

/-- Whether some span of the table holds the code point. -/
def inSpans (table : List Span) (n : Nat) : Bool :=
  table.any (·.covers n)

theorem inSpans_iff (table : List Span) (n : Nat) :
    inSpans table n = true ↔ ∃ s ∈ table, s.covers n = true := by
  simp [inSpans]

end FluentKotlin.Text
