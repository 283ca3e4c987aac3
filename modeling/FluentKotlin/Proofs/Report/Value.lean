import FluentKotlin.Report.Journal

/-! # Values and reports of a computation

A computation that reports has a value, which is found as if there were no reports, and its reports,
which end where the value is an error. Both are taken apart along the steps of the computation.
-/

namespace FluentKotlin

section Except

variable {ε δ α β : Type}

theorem bind_eq_ok {x : Except ε α} {f : α → Except ε β} {b : β} :
    (x >>= f) = .ok b ↔ ∃ a, x = .ok a ∧ f a = .ok b := by
  cases x <;> simp [bind, Except.bind]

@[simp] theorem ok_bind (a : α) (f : α → Except ε β) : (.ok a >>= f) = f a := rfl

theorem pure_eq_ok {a b : α} : (pure a : Except ε α) = .ok b ↔ a = b := by
  simp [pure, Except.pure]

theorem map_eq_ok {x : Except ε α} {f : α → β} {b : β} :
    x.map f = .ok b ↔ ∃ a, x = .ok a ∧ f a = b := by
  cases x <;> simp [Except.map]

theorem mapError_eq_ok {x : Except ε α} {f : ε → δ} {a : α} :
    x.mapError f = .ok a ↔ x = .ok a := by
  cases x with
  | ok b =>
    constructor
    · intro h
      cases h
      rfl
    · intro h
      cases h
      rfl
  | error e =>
    constructor
    · intro h
      cases h
    · intro h
      cases h

theorem toOption_eq_some {x : Except ε α} {a : α} : x.toOption = some a ↔ x = .ok a := by
  cases x <;> simp [Except.toOption]

/-- The computation has a result, and the result passes a test. -/
def yields (x : Except ε α) (test : α → Bool) : Bool :=
  match x with
  | .ok a => test a
  | .error _ => false

theorem exists_of_yields {x : Except ε α} {test : α → Bool} (h : yields x test = true) :
    ∃ a, x = .ok a ∧ test a = true := by
  cases x with
  | ok a => exact ⟨a, rfl, h⟩
  | error e => cases h

theorem mapError_eq_error {x : Except ε α} {f : ε → δ} {d : δ} :
    x.mapError f = .error d ↔ ∃ e, x = .error e ∧ f e = d := by
  cases x with
  | ok b =>
    constructor
    · intro h
      cases h
    · rintro ⟨e, h, _⟩
      cases h
  | error e =>
    constructor
    · intro h
      cases h
      exact ⟨e, rfl, rfl⟩
    · rintro ⟨_, h, rfl⟩
      cases h
      rfl

end Except

instance : LawfulMonad Reported := by
  refine LawfulMonad.mk' _ ?_ ?_ ?_
  · rintro α ⟨a, rs⟩
    exact congrArg (Reported.mk a) (List.append_nil rs)
  · intro α β a f
    rfl
  · rintro α β γ ⟨a, rs⟩ f g
    exact congrArg (Reported.mk _) (List.append_assoc rs _ _)

namespace Reporting

variable {ε δ α β : Type}

/-- The result, without the reports made on the way to it. -/
def value (x : Reporting ε α) : Except ε α := x.run.value

def reports (x : Reporting ε α) : List Report := x.run.reports

@[simp] theorem value_pure (a : α) : value (pure a : Reporting ε α) = .ok a := rfl

@[simp] theorem reports_pure (a : α) : reports (pure a : Reporting ε α) = [] := rfl

@[simp] theorem value_bind (x : Reporting ε α) (f : α → Reporting ε β) :
    value (x >>= f) = value x >>= fun a => value (f a) := by
  unfold value
  rw [ExceptT.run_bind, Reported.value_bind]
  cases x.run.value <;> rfl

/-- The reports of a step that fails are the last ones. -/
theorem reports_bind (x : Reporting ε α) (f : α → Reporting ε β) :
    reports (x >>= f) =
      reports x ++ (match value x with
        | .ok a => reports (f a)
        | .error _ => []) := by
  unfold reports value
  rw [ExceptT.run_bind, Reported.reports_bind]
  cases x.run.value <;> rfl

@[simp] theorem value_say (r : Report) : value (say r : Reporting ε Unit) = .ok () := rfl

@[simp] theorem reports_say (r : Report) : reports (say r : Reporting ε Unit) = [r] := rfl

@[simp] theorem value_debug (tier : Int) (branch : Bool) (message : String) :
    value (debug tier branch message : Reporting ε Unit) = .ok () := rfl

@[simp] theorem reports_debug (tier : Int) (branch : Bool) (message : String) :
    reports (debug tier branch message : Reporting ε Unit) = [.debug tier branch message] := rfl

@[simp] theorem value_warn (f : Finding) : value (warn f : Reporting ε Unit) = .ok () := rfl

@[simp] theorem value_ofExcept (x : Except ε α) : value (ofExcept x) = x := rfl

@[simp] theorem value_liftM (x : Except ε α) : value (liftM x : Reporting ε α) = x := rfl

@[simp] theorem reports_liftM (x : Except ε α) : reports (liftM x : Reporting ε α) = [] := rfl

@[simp] theorem value_mapError (f : ε → δ) (x : Reporting ε α) :
    value (mapError f x) = (value x).mapError f := rfl

def Says (P : Report → Prop) (x : Reporting ε α) : Prop := ∀ r ∈ reports x, P r

variable {P : Report → Prop}

theorem Says.of_nil {x : Reporting ε α} (h : reports x = []) : Says P x := by
  intro r hr
  rw [h] at hr
  cases hr

theorem Says.say {r : Report} (h : P r) : Says P (Reporting.say r : Reporting ε Unit) := by
  intro s hs
  rw [reports_say, List.mem_singleton] at hs
  exact hs ▸ h

theorem Says.bind {x : Reporting ε α} {f : α → Reporting ε β} (hx : Says P x)
    (hf : ∀ a, value x = .ok a → Says P (f a)) : Says P (x >>= f) := by
  intro r hr
  rw [reports_bind, List.mem_append] at hr
  rcases hr with hr | hr
  · exact hx r hr
  · cases h : value x with
    | ok a =>
      rw [h] at hr
      exact hf a h r hr
    | error e =>
      rw [h] at hr
      cases hr

theorem value_bind_of_error {x : Reporting ε α} {f : α → Reporting ε β} {e : ε}
    (h : value x = .error e) : value (x >>= f) = .error e := by
  rw [value_bind, h]
  rfl

end Reporting

end FluentKotlin
