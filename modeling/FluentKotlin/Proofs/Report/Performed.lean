import FluentKotlin.Proofs.Report.Value
import FluentKotlin.Report.Journaling

/-! # Computations performed on a journal

To perform a computation is to write each of its reports into a journal where it is made, so that
also an error leaves the reports before it. What a report adds to the findings and to the lines that
are not for debugging does not depend on the state of the journal. So journals that differ in debug
lines and guides only stay so, and nothing that a program computes from them differs.
-/

namespace FluentKotlin

def Report.findings : Report → List Finding
  | finding f => [f]
  | debug _ _ _ | note _ | info _ => []

def Report.plainLines : Report → List LogLine
  | info message => [⟨.info, message⟩]
  | finding f => [⟨f.severity.level, f.written⟩]
  | debug _ _ _ | note _ => []

namespace Journal

variable {j k : Journal}

def plainLines (j : Journal) : List LogLine := j.lines.filter (·.level ≠ .debug)

theorem findings_add (j : Journal) (r : Report) :
    (j.add r).findings = j.findings ++ r.findings := by
  cases r with
  | debug => rw [add]; split <;> exact (List.append_nil _).symm
  | note => rw [add]; split <;> exact (List.append_nil _).symm
  | info => exact (List.append_nil _).symm
  | finding => rfl

theorem findings_addAll (j : Journal) (rs : List Report) :
    (j.addAll rs).findings = j.findings ++ rs.flatMap Report.findings := by
  induction rs generalizing j with
  | nil => exact (List.append_nil _).symm
  | cons r rs ih => rw [addAll_cons, ih, findings_add, List.append_assoc, List.flatMap_cons]

theorem plainLines_write (j : Journal) (level : Level) (text : String) :
    (j.write level text).plainLines =
      j.plainLines ++ if level = .debug then [] else [⟨level, text⟩] := by
  unfold plainLines write
  rw [List.filter_append]
  cases level <;> rfl

theorem plainLines_add (j : Journal) (r : Report) :
    (j.add r).plainLines = j.plainLines ++ r.plainLines := by
  cases r with
  | debug =>
    rw [add]
    split
    · exact plainLines_write j .debug _
    · exact (List.append_nil _).symm
  | note =>
    rw [add]
    split
    · exact plainLines_write j .debug _
    · exact (List.append_nil _).symm
  | info message => exact plainLines_write j .info message
  | finding f =>
    have hlevel : f.severity.level ≠ .debug := by cases f.severity <;> decide
    refine (plainLines_write j f.severity.level f.written).trans ?_
    rw [if_neg hlevel]
    rfl

/-- The journals have the same findings, and the same lines but for debug lines. -/
structure Alike (j k : Journal) : Prop where
  findings : j.findings = k.findings
  plainLines : j.plainLines = k.plainLines

theorem Alike.add (h : Alike j k) (r : Report) : Alike (j.add r) (k.add r) where
  findings := by rw [findings_add, findings_add, h.findings]
  plainLines := by rw [plainLines_add, plainLines_add, h.plainLines]

theorem alike_debugEnabled (j : Journal) (a b : Bool) :
    Alike { j with debugEnabled := a } { j with debugEnabled := b } := ⟨rfl, rfl⟩

end Journal

namespace Reporting

variable {ε α β : Type} {b : β} {fs : List Finding}

/-- The computation has a result, and these are the findings on the way to it. -/
def Finds (x : Reporting ε α) (a : α) (fs : List Finding) : Prop :=
  value x = .ok a ∧ (reports x).flatMap Report.findings = fs

theorem finds_bind {x : Reporting ε α} {f : α → Reporting ε β} :
    Finds (x >>= f) b fs ↔ ∃ a gs hs, Finds x a gs ∧ Finds (f a) b hs ∧ gs ++ hs = fs := by
  unfold Finds
  rw [value_bind, reports_bind]
  cases value x with
  | error e => simp [bind, Except.bind]
  | ok a =>
    constructor
    · rintro ⟨hb, rfl⟩
      exact ⟨a, _, _, ⟨rfl, rfl⟩, ⟨hb, rfl⟩, List.flatMap_append.symm⟩
    · rintro ⟨_, _, _, ⟨ha, rfl⟩, ⟨hb, rfl⟩, rfl⟩
      cases ha
      exact ⟨hb, List.flatMap_append⟩

theorem finds_pure {a : β} : Finds (pure a : Reporting ε β) b fs ↔ a = b ∧ fs = [] := by
  unfold Finds
  rw [value_pure, Except.ok.injEq, eq_comm (a := fs)]
  rfl

theorem finds_debug_bind {tier : Int} {branch : Bool} {message : String}
    {f : Unit → Reporting ε β} :
    Finds (debug tier branch message >>= f) b fs ↔ Finds (f ()) b fs := by
  unfold Finds
  rw [value_bind, reports_bind]
  rfl

theorem finds_liftM_bind {x : Except ε α} {f : α → Reporting ε β} :
    Finds (liftM x >>= f) b fs ↔ ∃ a, x = .ok a ∧ Finds (f a) b fs := by
  unfold Finds
  rw [value_bind, reports_bind, value_liftM, reports_liftM, List.nil_append]
  cases x with
  | error e => simp [bind, Except.bind]
  | ok a => simp

theorem finds_warn_bind {g : Finding} {f : Unit → Reporting ε β} :
    Finds (warn g >>= f) b fs ↔ ∃ gs, Finds (f ()) b gs ∧ fs = g :: gs := by
  unfold Finds
  rw [value_bind, reports_bind]
  constructor
  · rintro ⟨hv, rfl⟩
    exact ⟨_, ⟨hv, rfl⟩, rfl⟩
  · rintro ⟨_, ⟨hv, rfl⟩, rfl⟩
    exact ⟨hv, rfl⟩

end Reporting

namespace Journaling

variable {ε α β : Type}

theorem outcome_reportAll (rs : List Report) (j : Journal) :
    (reportAll rs : Journaling ε Unit).outcome j = (.ok (), j.addAll rs) := by
  induction rs generalizing j with
  | nil => rfl
  | cons r rs ih => exact (Stateful.outcome_bind _ _ j).trans (ih (j.add r))

theorem outcome_perform (x : Reporting ε α) (j : Journal) :
    (perform x).outcome j = (x.value, j.addAll x.reports) := by
  unfold perform
  rw [Stateful.outcome_bind, outcome_reportAll]
  exact Stateful.outcome_ofExcept x.value _

/-- The findings on the way to a result come after those that the journal had. -/
theorem findings_of_outcome {x : Reporting ε α} {a : α} {j k : Journal}
    (h : (perform x).outcome j = (.ok a, k)) :
    ∃ fs, Reporting.Finds x a fs ∧ k.findings = j.findings ++ fs := by
  rw [outcome_perform, Prod.mk.injEq] at h
  obtain ⟨hv, rfl⟩ := h
  exact ⟨_, ⟨hv, rfl⟩, j.findings_addAll x.reports⟩

/-! ### Two runs on journals that are alike -/

/-- On journals that are alike, the program comes to the same and leaves journals that are alike. -/
def Indifferent (x : Journaling ε α) : Prop :=
  ∀ j k, Journal.Alike j k →
    (x.outcome j).1 = (x.outcome k).1 ∧ Journal.Alike (x.outcome j).2 (x.outcome k).2

variable {x : Journaling ε α}

theorem indifferent_pure (a : α) : Indifferent (pure a : Journaling ε α) :=
  fun _ _ h => ⟨rfl, h⟩

theorem indifferent_ofExcept (x : Except ε α) : Indifferent (ofExcept x : Journaling ε α) := by
  cases x with
  | ok a => exact indifferent_pure a
  | error e => exact fun _ _ h => ⟨rfl, h⟩

theorem indifferent_findings : Indifferent (findings : Journaling ε (List Finding)) :=
  fun _ _ h => ⟨congrArg Except.ok h.findings, h⟩

theorem indifferent_report (r : Report) : Indifferent (report r : Journaling ε Unit) :=
  fun _ _ h => ⟨rfl, h.add r⟩

theorem Indifferent.bind {f : α → Journaling ε β} (hx : Indifferent x)
    (hf : ∀ a, Indifferent (f a)) : Indifferent (x >>= f) := by
  intro j k h
  obtain ⟨hvalue, hjournal⟩ := hx j k h
  rw [Stateful.outcome_bind, Stateful.outcome_bind]
  cases hj : x.outcome j with
  | mk value next =>
    cases hk : x.outcome k with
    | mk other rest =>
      rw [hj, hk] at hvalue hjournal
      cases hvalue
      cases value with
      | ok a => exact hf a next rest hjournal
      | error e => exact ⟨rfl, hjournal⟩

theorem indifferent_reportAll (rs : List Report) :
    Indifferent (reportAll rs : Journaling ε Unit) := by
  induction rs with
  | nil => exact indifferent_pure ()
  | cons r rs ih => exact (indifferent_report r).bind fun _ => ih

theorem indifferent_perform (x : Reporting ε α) : Indifferent (perform x) :=
  (indifferent_reportAll x.reports).bind fun _ => indifferent_ofExcept x.value

end Journaling

end FluentKotlin
