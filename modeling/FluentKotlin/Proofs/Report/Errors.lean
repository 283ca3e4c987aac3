import FluentKotlin.Proofs.Report.Settled

/-! # Errors in a journal

The errors that a journal keeps are those among its reports, in their order, whether debug lines
are written or not.
-/

namespace FluentKotlin

def errorsIn : List Report → List Finding
  | [] => []
  | .finding f :: rs => if f.severity = .error then f :: errorsIn rs else errorsIn rs
  | .debug _ _ _ :: rs => errorsIn rs
  | .note _ :: rs => errorsIn rs
  | .info _ :: rs => errorsIn rs

variable {rs ss : List Report}

theorem errorsIn_append (rs ss : List Report) :
    errorsIn (rs ++ ss) = errorsIn rs ++ errorsIn ss := by
  induction rs with
  | nil => rfl
  | cons r rs ih =>
    cases r with
    | finding f =>
      simp only [List.cons_append, errorsIn, ih]
      split
      · rfl
      · rfl
    | debug => exact ih
    | note => exact ih
    | info => exact ih

theorem errorsIn_of_mild (h : ∀ r ∈ rs, r.Mild) : errorsIn rs = [] := by
  induction rs with
  | nil => rfl
  | cons r rs ih =>
    obtain ⟨hr, hrs⟩ := List.forall_mem_cons.mp h
    cases r with
    | finding f =>
      have hw : f.severity = .warning := hr
      simp only [errorsIn, hw, reduceCtorEq, if_false]
      exact ih hrs
    | debug => exact ih hrs
    | note => exact ih hrs
    | info => exact ih hrs

namespace Journal

theorem errors_addAll (j : Journal) (rs : List Report) :
    (j.addAll rs).errors = j.errors ++ errorsIn rs := by
  induction rs generalizing j with
  | nil => simp [errorsIn]
  | cons r rs ih =>
    rw [addAll_cons, ih]
    cases r with
    | finding f =>
      cases hs : f.severity <;> simp [errors, add, write, errorsIn, hs]
    | debug tier branch message =>
      simp only [add]
      split
      · rfl
      · rfl
    | note message =>
      simp only [add]
      split
      · rfl
      · rfl
    | info message => rfl

theorem errors_ofReports (debugEnabled : Bool) (rs : List Report) :
    (ofReports debugEnabled rs).errors = errorsIn rs := by
  unfold ofReports
  rw [errors_addAll]
  rfl

end Journal

end FluentKotlin
