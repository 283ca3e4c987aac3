/-! # Programs on a state

A program works on a state and may fail. What it has written stays, also where it fails later on.
-/

namespace FluentKotlin

abbrev Stateful (ε σ α : Type) := ExceptT ε (StateM σ) α

namespace Stateful

variable {ε σ α β : Type}

/-- What the program comes to, and the state that it leaves. -/
def outcome (x : Stateful ε σ α) (s : σ) : Except ε α × σ := x.run.run s

/-- What a program comes to that goes on from an outcome, unless that is an error. -/
def resume (f : α → Stateful ε σ β) : Except ε α × σ → Except ε β × σ
  | (.ok a, next) => (f a).outcome next
  | (.error e, next) => (.error e, next)

theorem outcome_bind (x : Stateful ε σ α) (f : α → Stateful ε σ β) (s : σ) :
    (x >>= f).outcome s = resume f (x.outcome s) := by
  unfold outcome
  rw [ExceptT.run_bind, StateT.run_bind]
  cases x.run.run s with
  | mk value next => cases value <;> rfl

@[simp] theorem outcome_ofExcept (r : Except ε α) (s : σ) :
    (ofExcept r : Stateful ε σ α).outcome s = (r, s) := by
  cases r <;> rfl

end Stateful

end FluentKotlin
