import FluentKotlin.Proofs.Report.Value

/-! # Computations that go together

Two computations go together when the one fails as the other does, or both have results that are
related. Steps that go together make computations that do.
-/

namespace FluentKotlin

/-- The one computation fails as the other does, or both have results that are related. -/
inductive Together {ε α β : Type} (R : α → β → Prop) : Except ε α → Except ε β → Prop where
  | failed (e : ε) : Together R (.error e) (.error e)
  | ended {a : α} {b : β} : R a b → Together R (.ok a) (.ok b)

namespace Together

variable {ε δ α β γ κ : Type} {R : α → β → Prop} {S : γ → κ → Prop} {x : Except ε α}
  {y : Except ε β}

theorem mapError (h : Together R x y) (f : ε → δ) : Together R (x.mapError f) (y.mapError f) := by
  cases h with
  | failed e => exact .failed (f e)
  | ended hr => exact .ended hr

theorem bind {f : α → Except ε γ} {g : β → Except ε κ} (h : Together R x y)
    (hs : ∀ a b, R a b → Together S (f a) (g b)) : Together S (x >>= f) (y >>= g) := by
  cases h with
  | failed e => exact .failed e
  | ended hr => exact hs _ _ hr

theorem refl {R : α → α → Prop} (hr : ∀ a, R a a) (x : Except ε α) : Together R x x := by
  cases x with
  | error e => exact .failed e
  | ok a => exact .ended (hr a)

theorem step {x : Except ε α} {f : α → Except ε γ} {g : α → Except ε κ}
    (hs : ∀ a, x = .ok a → Together S (f a) (g a)) : Together S (x >>= f) (x >>= g) := by
  cases x with
  | error e => exact .failed e
  | ok a => exact hs a rfl

theorem eq {R : α → α → Prop} {x y : Except ε α} (h : Together R x y) (hr : ∀ a b, R a b → a = b) :
    x = y := by
  cases h with
  | failed e => rfl
  | ended hab => exact congrArg Except.ok (hr _ _ hab)

/-- Where related results differ, only a failure is the same for both. -/
theorem eq_iff_error {R : α → α → Prop} {x y : Except ε α} (h : Together R x y)
    (hr : ∀ a b, R a b → a ≠ b) : x = y ↔ ∃ e, x = .error e := by
  cases h with
  | failed e => exact iff_of_true rfl ⟨e, rfl⟩
  | ended hab => exact iff_of_false (fun he => hr _ _ hab (Except.ok.inj he)) nofun

end Together

end FluentKotlin
