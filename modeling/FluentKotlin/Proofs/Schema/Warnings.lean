import FluentKotlin.Proofs.Report.Performed
import FluentKotlin.Proofs.Schema.Forms

/-! # Warnings of the classification

Two things are worth a warning when a property is classified: that the kind and the name of its type
disagree about which container it is, and that it is taken as it is although it is not of a scalar
kind. Each of them is reported once where it is so, in this order, and nothing else is.
-/

namespace FluentKotlin

/-- The list holds one item of a kind where the condition holds, and nothing otherwise. -/
inductive Once {α : Type} (P : Prop) (Q : α → Prop) : List α → Prop where
  | absent : ¬ P → Once P Q []
  | present {a : α} : P → Q a → Once P Q [a]

theorem Once.of_iff {α : Type} {P P' : Prop} {Q : α → Prop} {as : List α} (h : Once P Q as)
    (hp : P ↔ P') : Once P' Q as := by
  rwa [propext hp] at h

structure Finding.Warns (label : Option String) (p : DomainProperty) (f : Finding) : Prop where
  severity : f.severity = .warning
  domain : f.domain = label
  property : f.property = some p.name

/-- Either the kind of the reference or its name says that it is a certain container, but not both.
-/
def TypeRef.Disagrees (r : TypeRef) (kind : TypeKind) (name : String) : Prop :=
  Xor (r.kind = kind) (r.qualifiedName = some name)

namespace Schema

/-- No rule comes before those for containers, and the kind and the name of the type disagree about
a map or, if it is none, about a list. -/
structure Conflicting (p : DomainProperty) : Prop where
  structural : Structural p
  kind : p.declared.kind ∉ [.boolean, .char, .string, .numeric]
  disagrees : p.declared.Disagrees .map mapName ∨
    ¬ p.declared.IsMap ∧ p.declared.Disagrees .collection listName

structure FellBack (p : DomainProperty) (s : Schema) : Prop where
  plain : ∃ t, s.form = .plain t
  unscaled : p.transform ≠ none ∨ p.declared.kind ∉ [.char, .string, .numeric]

def conflictWord : String := "conflicting "

structure IsConflict (label : Option String) (p : DomainProperty) (f : Finding) : Prop
    extends f.Warns label p where
  fallback : f.fallback = none
  message : ∃ kind ∈ [TypeKind.map, .collection],
    (conflictWord ++ kind.name ++ " signals for '").toList <+: f.message.toList

structure IsFallback (label : Option String) (p : DomainProperty) (f : Finding) : Prop
    extends f.Warns label p where
  fallback : f.fallback = some "Default"
  message : ¬ conflictWord.toList <+: f.message.toList

open Reporting

variable {known : KnownDomains} {label : Option String} {p : DomainProperty} {s : Schema}
  {fs : List Finding}

theorem isFallback_fallbackWarning {message : String}
    (h : ¬ conflictWord.toList <+: message.toList) :
    IsFallback label p (fallbackWarning label p message) :=
  ⟨⟨rfl, rfl, rfl⟩, rfl, h⟩

theorem finds_fallback (h : Finds (fallback p) s fs) : (∃ t, s.form = .plain t) ∧ fs = [] := by
  unfold fallback at h
  obtain ⟨t, _, h⟩ := finds_liftM_bind.mp h
  obtain ⟨rfl, rfl⟩ := finds_pure.mp h
  exact ⟨⟨t, rfl⟩, rfl⟩

def Reports (label : Option String) (p : DomainProperty) (s : Schema) (fs : List Finding) : Prop :=
  Once (∃ t, s.form = .plain t) (IsFallback label p) fs

theorem reports_fallback {message : String} (hm : ¬ conflictWord.toList <+: message.toList)
    (h : Finds (do warn (fallbackWarning label p message); fallback p) s fs) :
    Reports label p s fs := by
  obtain ⟨_, h', rfl⟩ := finds_warn_bind.mp h
  obtain ⟨ht, rfl⟩ := finds_fallback h'
  exact .present ht (isFallback_fallbackWarning hm)

theorem reports_make {form : Form} (h : Finds (pure (make p form) : Classifying Schema) s fs)
    (hf : ∀ t, form ≠ .plain t) : Reports label p s fs := by
  obtain ⟨rfl, rfl⟩ := finds_pure.mp h
  exact .absent fun ⟨t, ht⟩ => hf t ht

theorem reports_ofHint {hint : TransformHint} (h : Finds (ofHint label p hint) s fs) :
    Reports label p s fs := by
  unfold ofHint at h
  simp only [finds_debug_bind, finds_liftM_bind] at h
  obtain ⟨_, _, h⟩ := h
  cases hi : hint.input with
  | none =>
    rw [hi] at h
    exact reports_fallback (by simp [conflictWord]) h
  | some r =>
    simp only [hi, finds_liftM_bind] at h
    obtain ⟨_, _, _, _, h⟩ := h
    exact reports_make h nofun

theorem reports_ofDomain (h : Finds (ofDomain known p) s fs) : Reports label p s fs := by
  unfold ofDomain at h
  simp only [finds_debug_bind, finds_liftM_bind] at h
  obtain ⟨_, _, _, _, h⟩ := h
  exact reports_make h nofun

theorem reports_ofMap (h : Finds (ofMap known label p) s fs) : Reports label p s fs := by
  unfold ofMap at h
  split at h
  case h_1 _ val _ =>
    simp only [finds_debug_bind, finds_liftM_bind] at h
    obtain ⟨_, _, _, _, h⟩ := h
    cases hg : val.isMapGroupValue with
    | true =>
      simp only [hg, if_true, finds_debug_bind, finds_liftM_bind] at h
      obtain ⟨_, _, h⟩ := h
      exact reports_make h nofun
    | false =>
      rw [hg, if_neg Bool.false_ne_true, finds_debug_bind] at h
      exact reports_make h nofun
  case h_2 =>
    obtain ⟨declared, _, h⟩ := finds_liftM_bind.mp h
    exact reports_fallback (by simp [conflictWord]) h

theorem reports_ofList (h : Finds (ofList known label p) s fs) : Reports label p s fs := by
  unfold ofList at h
  split at h
  case h_1 element _ =>
    simp only [finds_debug_bind, finds_liftM_bind] at h
    obtain ⟨_, _, h⟩ := h
    cases hg : element.isGroupElement with
    | true =>
      simp only [hg, if_true, finds_debug_bind, finds_liftM_bind] at h
      obtain ⟨_, _, h⟩ := h
      exact reports_make h nofun
    | false =>
      rw [hg, if_neg Bool.false_ne_true, finds_debug_bind] at h
      exact reports_make h nofun
  case h_2 =>
    obtain ⟨declared, _, h⟩ := finds_liftM_bind.mp h
    exact reports_fallback (by simp [conflictWord]) h

/-- The question whether a type is a certain container is what reports a disagreement. -/
theorem conflict_isContainer {kind : TypeKind} {name : String} {b : Bool}
    (hk : kind ∈ [TypeKind.map, .collection])
    (h : Finds (isContainer label p kind name) b fs) :
    Once (p.declared.Disagrees kind name) (IsConflict label p) fs := by
  have told : p.declared.Disagrees kind name ↔
      ((p.declared.kind == kind) != (p.declared.qualifiedName == some name)) = true := by
    rw [bne_iff_ne, ne_eq, Bool.eq_iff_iff, beq_iff_eq, beq_iff_eq, ← xor_iff_not_iff]
    rfl
  unfold isContainer at h
  dsimp only at h
  cases hd : (p.declared.kind == kind) != (p.declared.qualifiedName == some name) with
  | true =>
    simp only [hd, if_true, finds_liftM_bind, finds_warn_bind, finds_pure] at h
    obtain ⟨declared, _, _, ⟨_, rfl⟩, rfl⟩ := h
    refine .present (told.mpr hd) ⟨⟨rfl, rfl, rfl⟩, rfl, kind, hk, ?_⟩
    simp [conflictWord]
  | false =>
    rw [hd, if_neg Bool.false_ne_true] at h
    obtain ⟨_, rfl⟩ := finds_pure.mp h
    exact .absent fun hp => Bool.false_ne_true (hd.symm.trans (told.mp hp))

/-- The conflicts come before the fallbacks, and either is reported once where there is one. -/
def Warned (label : Option String) (p : DomainProperty) (s : Schema) (fs : List Finding) : Prop :=
  ∃ conflicts fallbacks, fs = conflicts ++ fallbacks ∧
    Once (Conflicting p) (IsConflict label p) conflicts ∧
    Once (FellBack p s) (IsFallback label p) fallbacks

theorem fellBack_iff (h : p.transform ≠ none ∨ p.declared.kind ∉ [.char, .string, .numeric]) :
    (∃ t, s.form = .plain t) ↔ FellBack p s :=
  ⟨fun hp => ⟨hp, h⟩, FellBack.plain⟩

theorem Reports.warned (h : Reports label p s fs) (hc : ¬ Conflicting p)
    (hu : p.transform ≠ none ∨ p.declared.kind ∉ [.char, .string, .numeric]) :
    Warned label p s fs :=
  ⟨[], fs, rfl, .absent hc, h.of_iff (fellBack_iff hu)⟩

/-- The second question is asked only where the first one was answered in the negative, and then
the first one has reported nothing. -/
theorem warned_ofContainer (hs : Structural p)
    (hk : p.declared.kind ∉ [.boolean, .char, .string, .numeric])
    (h : Finds (ofContainer known label p) s fs) : Warned label p s fs := by
  have hu : p.declared.kind ∉ [.char, .string, .numeric] := fun hm => hk (.tail _ hm)
  unfold ofContainer at h
  obtain ⟨isMap, cs, gs, hq, hrest, rfl⟩ := finds_bind.mp h
  have map : isMap = true ↔ p.declared.IsMap := isContainer_eq_ok hq.1
  have hm := conflict_isContainer (by simp) hq
  cases isMap with
  | true =>
    rw [if_pos rfl, finds_debug_bind] at hrest
    have conflict : p.declared.Disagrees .map mapName ↔ Conflicting p :=
      ⟨fun hd => ⟨hs, hk, .inl hd⟩,
        fun hc => hc.disagrees.resolve_right fun hn => hn.1 (map.mp rfl)⟩
    exact ⟨cs, gs, rfl, hm.of_iff conflict, (reports_ofMap hrest).of_iff (fellBack_iff (.inr hu))⟩
  | false =>
    rw [if_neg Bool.false_ne_true] at hrest
    have hn : ¬ p.declared.IsMap := fun hp => Bool.false_ne_true (map.mpr hp)
    have agrees : ¬ p.declared.Disagrees .map mapName := fun hd =>
      hn (hd.imp And.left And.left)
    cases hm with
    | present hd _ => exact absurd hd agrees
    | absent =>
      obtain ⟨isList, cs, gs, hl, hlist, rfl⟩ := finds_bind.mp hrest
      have conflict : p.declared.Disagrees .collection listName ↔ Conflicting p :=
        ⟨fun hd => ⟨hs, hk, .inr ⟨hn, hd⟩⟩, fun hc => (hc.disagrees.resolve_left agrees).2⟩
      have hgs : Reports label p s gs := by
        cases isList with
        | true =>
          rw [if_pos rfl, finds_debug_bind] at hlist
          exact reports_ofList hlist
        | false =>
          rw [if_neg Bool.false_ne_true] at hlist
          obtain ⟨declared, _, hend⟩ := finds_liftM_bind.mp hlist
          exact reports_fallback (by simp [conflictWord]) hend
      exact ⟨cs, gs, rfl, (conflict_isContainer (by simp) hl).of_iff conflict,
        hgs.of_iff (fellBack_iff (.inr hu))⟩

theorem warned_choose (h : Finds (choose known label p) s fs) : Warned label p s fs := by
  cases choice p with
  | hint ht hc =>
    rw [hc] at h
    refine (reports_ofHint h).warned (fun hc => ?_) (.inl (by simp [ht]))
    exact absurd hc.structural.transform (by simp [ht])
  | domain ht hg hc =>
    rw [hc] at h
    have hk : p.declared.kind = .nominal := (isGenerated_iff.mp hg).1
    refine (reports_ofDomain h).warned (fun hc => ?_) (.inr (by simp [hk]))
    exact absurd hc.structural.generated (by simp [hg])
  | boolean hs hk hc =>
    rw [hc] at h
    have unlike : ∀ t, Form.boolean ≠ .plain t := nofun
    exact (reports_make h unlike).warned (fun hc => hc.kind (by simp [hk])) (.inr (by simp [hk]))
  | scalar hs hk hc =>
    rw [hc] at h
    obtain ⟨_, rfl⟩ := finds_fallback h
    exact ⟨[], [], rfl, .absent fun hc => hc.kind (.tail _ hk),
      .absent fun hb => hb.unscaled.elim (fun hn => hn hs.transform) fun hn => hn hk⟩
  | container hs hk hc =>
    rw [hc] at h
    exact warned_ofContainer hs hk h

theorem warned_classify (h : Finds (classify known label p) s fs) : Warned label p s fs := by
  unfold classify at h
  simp only [finds_debug_bind, finds_liftM_bind] at h
  obtain ⟨_, _, h⟩ := h
  obtain ⟨s', gs, hs, hc, hend, rfl⟩ := finds_bind.mp h
  rw [finds_debug_bind] at hend
  obtain ⟨rfl, rfl⟩ := finds_pure.mp hend
  rw [List.append_nil]
  exact warned_choose hc

/-- When a property is classified on a journal, what was found before stays in its order. After it
comes one warning if the signals for a container conflict, and then one if the property falls back.
-/
theorem findings_classify {j k : Journal}
    (h : (Journaling.perform (classify known label p)).outcome j = (.ok s, k)) :
    ∃ conflicts fallbacks, k.findings = j.findings ++ (conflicts ++ fallbacks) ∧
      Once (Conflicting p) (IsConflict label p) conflicts ∧
      Once (FellBack p s) (IsFallback label p) fallbacks := by
  obtain ⟨_, hf, hj⟩ := Journaling.findings_of_outcome h
  obtain ⟨conflicts, fallbacks, rfl, hc, hb⟩ := warned_classify hf
  exact ⟨conflicts, fallbacks, hj, hc, hb⟩

/-- A map by its name only, and without arguments. -/
def bareIndex : DomainProperty := { name := "index", declared := .nominal mapName [] }

def usedJournal : Journal :=
  { debugEnabled := true, findings := [{ severity := .error, message := "late" }] }

theorem findings_classify_bareIndex :
    ∃ s k, (Journaling.perform (classify [] (some "io.x.A") bareIndex)).outcome usedJournal =
        (.ok s, k) ∧
      Conflicting bareIndex ∧ FellBack bareIndex s ∧
      ∃ conflicts fallbacks, k.findings = usedJournal.findings ++ (conflicts ++ fallbacks) ∧
        Once (Conflicting bareIndex) (IsConflict (some "io.x.A") bareIndex) conflicts ∧
        Once (FellBack bareIndex s) (IsFallback (some "io.x.A") bareIndex) fallbacks := by
  have hy : yields (value (classify [] (some "io.x.A") bareIndex))
      (fun s => s.form.title == "Default") = true := by
    decide +kernel
  obtain ⟨s, hs, hform⟩ := exists_of_yields hy
  have h : (Journaling.perform (classify [] (some "io.x.A") bareIndex)).outcome usedJournal =
      (.ok s, usedJournal.addAll (reports (classify [] (some "io.x.A") bareIndex))) := by
    rw [Journaling.outcome_perform, hs]
  have plain : ∃ t, s.form = .plain t := by
    cases hf : s.form <;> simp_all [Form.title]
  exact ⟨s, _, h, ⟨⟨rfl, rfl⟩, by decide, .inl (.inr ⟨rfl, by decide⟩)⟩,
    ⟨plain, .inr (by decide)⟩, findings_classify h⟩

end Schema

end FluentKotlin
