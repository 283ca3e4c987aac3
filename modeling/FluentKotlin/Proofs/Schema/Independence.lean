import FluentKotlin.Proofs.Report.Performed
import FluentKotlin.Proofs.Schema.Forms
import FluentKotlin.Proofs.Together

/-! # What the classification depends on

Two runs of the classification on properties that say the same, whatever the known domains, the
labels, the journals and the positions of the properties are: the one fails as the other does, or
both give the same schema but for the documentation of its builder.
-/

namespace FluentKotlin

/-- The properties say the same, but they may stand at other positions in their domains. -/
structure DomainProperty.SameButPosition (p q : DomainProperty) : Prop where
  name : p.name = q.name
  declared : p.declared = q.declared
  nullable : p.nullable = q.nullable
  transform : p.transform = q.transform
  default : p.default = q.default

namespace Schema

def undocumented (s : Schema) : Schema :=
  match s.form with
  | .group c builder _ => { s with form := .group c builder none }
  | .mapGroup key c builder _ => { s with form := .mapGroup key c builder none }
  | .builder t builder _ => { s with form := .builder t builder none }
  | .boolean | .plain _ | .map _ _ | .collection _ | .transform _ _ _ => s

def Matches (s t : Schema) : Prop := s.undocumented = t.undocumented

theorem Matches.refl (s : Schema) : Matches s s := rfl

open Reporting

variable {known known' : KnownDomains} {label label' : Option String} {p q : DomainProperty}

theorem fallback_together (w w' : TypeName → Finding) :
    Together Matches
      (value (do let t ← p.declared.typeName; warn (w t); fallback p : Classifying Schema))
      (value (do let t ← p.declared.typeName; warn (w' t); fallback p : Classifying Schema)) := by
  simp only [value_bind, value_liftM, value_warn, ok_bind]
  exact .refl .refl _

theorem ofHint_together (hint : TransformHint) :
    Together Matches (value (ofHint label p hint)) (value (ofHint label' p hint)) := by
  unfold ofHint
  simp only [value_bind, value_debug, ok_bind, value_liftM]
  refine .step fun _ _ => ?_
  cases hint.input with
  | none => exact .refl .refl _
  | some r => exact .refl .refl _

theorem ofDomain_together :
    Together Matches (value (ofDomain known p)) (value (ofDomain known' p)) := by
  unfold ofDomain
  simp only [value_bind, value_debug, ok_bind, value_liftM, value_pure]
  exact .step fun c _ => .step fun t _ => .ended rfl

theorem value_isContainer_congr (label label' : Option String) (kind : TypeKind) (name : String) :
    value (isContainer label p kind name) = value (isContainer label' p kind name) := by
  unfold isContainer
  dsimp only
  split
  · simp only [value_bind, value_liftM, value_warn, ok_bind]
  · rfl

theorem ofMap_together :
    Together Matches (value (ofMap known label p)) (value (ofMap known' label' p)) := by
  unfold ofMap
  split
  · simp only [value_bind, value_debug, ok_bind, value_liftM]
    refine .step fun keyType _ => .step fun valueType _ => ?_
    split
    · simp only [value_bind, value_debug, ok_bind, value_liftM, value_pure]
      exact .step fun c _ => .ended rfl
    · exact .refl .refl _
  · exact fallback_together _ _

theorem ofList_together :
    Together Matches (value (ofList known label p)) (value (ofList known' label' p)) := by
  unfold ofList
  split
  · simp only [value_bind, value_debug, ok_bind, value_liftM]
    refine .step fun elementType _ => ?_
    split
    · simp only [value_bind, value_debug, ok_bind, value_liftM, value_pure]
      exact .step fun c _ => .ended rfl
    · exact .refl .refl _
  · exact fallback_together _ _

theorem ofContainer_together :
    Together Matches (value (ofContainer known label p)) (value (ofContainer known' label' p)) := by
  unfold ofContainer
  simp only [value_bind]
  rw [value_isContainer_congr label label']
  refine .step fun isMap _ => ?_
  split
  · exact ofMap_together
  · simp only [value_bind]
    rw [value_isContainer_congr label label']
    refine .step fun isList _ => ?_
    split
    · exact ofList_together
    · exact fallback_together _ _

theorem choose_together :
    Together Matches (value (choose known label p)) (value (choose known' label' p)) := by
  cases choice p with
  | hint _ hc =>
    rw [hc, hc]
    exact ofHint_together _
  | domain _ _ hc =>
    rw [hc, hc]
    exact ofDomain_together
  | boolean _ _ hc =>
    rw [hc, hc]
    exact .refl .refl _
  | scalar _ _ hc =>
    rw [hc, hc]
    exact .refl .refl _
  | container _ _ hc =>
    rw [hc, hc]
    exact ofContainer_together

theorem choose_congr_of_sameButPosition (h : p.SameButPosition q) :
    choose known label p = choose known label q := by
  obtain ⟨name, declared, nullable, ordinal, isLast, transform, default⟩ := p
  obtain ⟨rfl, rfl, rfl, rfl, rfl⟩ := h
  rfl

theorem classify_value_together (h : p.SameButPosition q) :
    Together Matches (value (classify known label p)) (value (classify known' label' q)) := by
  unfold classify
  simp only [value_bind, value_debug, ok_bind, value_liftM, value_pure]
  rw [h.declared, choose_congr_of_sameButPosition h]
  exact .step fun _ _ => choose_together.bind fun _ _ hm => .ended hm

/-- The classification depends on what a property says and on nothing else: not on its position,
not on the label and the other domains that are known, and not on the journal. -/
theorem classify_together (h : p.SameButPosition q) (j k : Journal) :
    Together Matches ((Journaling.perform (classify known label p)).outcome j).1
      ((Journaling.perform (classify known' label' q)).outcome k).1 := by
  rw [Journaling.outcome_perform, Journaling.outcome_perform]
  exact classify_value_together h

def firstPart : DomainProperty :=
  { name := "part", declared := .generated "io.x.B" false .none [], isLast := false }

theorem classify_together_firstPart :
    firstPart.SameButPosition { firstPart with ordinal := 1, isLast := true } ∧
      Together Matches
        ((Journaling.perform (classify (.ofList [⟨"io.x.B", [{ name := "b", declared := .string }],
          false, false, .none⟩]) (some "io.x.A") firstPart)).outcome { debugEnabled := true }).1
        ((Journaling.perform (classify [] none
          { firstPart with ordinal := 1, isLast := true })).outcome {}).1 :=
  have h : firstPart.SameButPosition { firstPart with ordinal := 1, isLast := true } :=
    ⟨rfl, rfl, rfl, rfl, rfl⟩
  ⟨h, classify_together h _ _⟩

end Schema

end FluentKotlin
