/-! # Reports

What a computation has to say besides its result. Reports are part of the result and come in the
order in which they were made, also before an error.
-/

namespace FluentKotlin

inductive Severity where
  | warning
  | error
  deriving DecidableEq, Repr, Inhabited

/-- Something worth knowing that does not end a computation. -/
structure Finding where
  severity : Severity
  message : String
  domain : Option String := none
  property : Option String := none
  fallback : Option String := none
  deriving DecidableEq, Repr, Inhabited

inductive Report where
  /-- A line in the tree of debug lines, at a depth, with a guide kept open or not. -/
  | debug (tier : Int) (branch : Bool) (message : String)
  /-- A debug line outside the tree. -/
  | note (message : String)
  | info (message : String)
  | finding (f : Finding)
  deriving DecidableEq, Repr, Inhabited

/-- A result with the reports made on the way to it. -/
structure Reported (α : Type) where
  value : α
  reports : List Report
  deriving Inhabited

namespace Reported

instance : Monad Reported where
  pure a := ⟨a, []⟩
  bind x f := ⟨(f x.value).value, x.reports ++ (f x.value).reports⟩

@[simp] theorem value_pure {α : Type} (a : α) : (pure a : Reported α).value = a := rfl

@[simp] theorem reports_pure {α : Type} (a : α) : (pure a : Reported α).reports = [] := rfl

@[simp] theorem value_bind {α β : Type} (x : Reported α) (f : α → Reported β) :
    (x >>= f).value = (f x.value).value := rfl

@[simp] theorem reports_bind {α β : Type} (x : Reported α) (f : α → Reported β) :
    (x >>= f).reports = x.reports ++ (f x.value).reports := rfl

end Reported

/-- A computation that reports and may end in an error. -/
abbrev Reporting (ε α : Type) := ExceptT ε Reported α

namespace Reporting

def say {ε : Type} (r : Report) : Reporting ε Unit := ⟨.ok (), [r]⟩

def debug {ε : Type} (tier : Int) (branch : Bool) (message : String) : Reporting ε Unit :=
  say (.debug tier branch message)

def warn {ε : Type} (f : Finding) : Reporting ε Unit := say (.finding f)

def ofExcept {ε α : Type} (x : Except ε α) : Reporting ε α := ⟨x, []⟩

/-- The same computation with its error seen as one of another kind. -/
def mapError {ε δ α : Type} (f : ε → δ) (x : Reporting ε α) : Reporting δ α :=
  ⟨x.run.value.mapError f, x.run.reports⟩

end Reporting

end FluentKotlin
