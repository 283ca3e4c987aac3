import FluentKotlin.Proofs.Document.Sections
import FluentKotlin.Proofs.Document.TypeGrammar

/-! # Faults that escape

A fault escapes a reading when it does not say what is wrong with the document. It escapes from the
first step or from what follows on it. No part of a document but a value that is needed as a text
lets one escape by itself: an integer can be too long to be written.
-/

namespace FluentKotlin

section Escapes

variable {α β : Type}

/-- The reading ends with a fault that does not say what is wrong with the document. -/
def Escapes (x : Describing α) : Prop := ∃ e, x = .error e ∧ e.isExplained = false

@[simp] theorem not_escapes_ok (a : α) : ¬ Escapes (.ok a) := nofun

@[simp] theorem not_escapes_pure (a : α) : ¬ Escapes (pure a) := nofun

@[simp] theorem escapes_error {e : DocumentError} :
    Escapes (.error e : Describing α) ↔ e.isExplained = false := by
  constructor
  · rintro ⟨_, he, h⟩
    cases he
    exact h
  · exact fun h => ⟨e, rfl, h⟩

/-- A fault escapes from the first step or, where the first has a result, from what follows. -/
theorem escapes_bind {x : Describing α} {f : α → Describing β} :
    Escapes (x >>= f) ↔ Escapes x ∨ ∃ a, x = .ok a ∧ Escapes (f a) := by
  cases x with
  | ok a => simp
  | error e =>
    rw [escapes_error]
    exact (escapes_error (α := β)).trans (by simp)

instance (x : Describing α) : Decidable (Escapes x) :=
  match x with
  | .ok a => .isFalse (not_escapes_ok a)
  | .error _ => decidable_of_iff _ escapes_error.symm

theorem not_escapes_iff {x : Describing α} :
    ¬ Escapes x ↔ (∃ a, x = .ok a) ∨ ∃ e, x = .error e ∧ e.isExplained = true := by
  cases x with
  | ok a => simp
  | error e => simp

end Escapes

/-! ### Fields -/

theorem Value.isVoid_of_hasLong {v : Value} (h : v.hasLong = true) : v.isVoid = false := by
  cases v with
  | scalar s =>
    cases s with
    | int n =>
      have hn : n ≠ 0 := by
        rintro rfl
        revert h
        decide +kernel
      simpa [isVoid, Scalar.isVoid] using hn
    | _ => cases h
  | list items =>
    cases items with
    | nil => cases h
    | cons => rfl
  | mapping entries =>
    cases entries with
    | nil => cases h
    | cons => rfl
  | set members =>
    cases members with
    | nil => cases h
    | cons => rfl
  | pair => rfl
  | named => rfl
  | again => cases h

section Fields

variable {v : Value} {entries : Entries} {place key : String}

/-- Only an integer that is too long keeps a value from having a text. -/
theorem escapes_shown : Escapes (shown v) ↔ v.hasLong = true := by
  unfold shown Value.shown
  cases v.hasLong with
  | true => exact iff_of_true ⟨_, rfl, rfl⟩ rfl
  | false => exact iff_of_false nofun Bool.false_ne_true

theorem escapes_textOf : Escapes (textOf v) ↔ v.hasLong = true := by
  unfold textOf
  cases hv : v.isVoid with
  | true =>
    refine iff_of_false nofun fun h => ?_
    rw [Value.isVoid_of_hasLong h] at hv
    cases hv
  | false =>
    rw [if_neg Bool.false_ne_true, escapes_bind, escapes_shown]
    simp

theorem escapes_textField :
    Escapes (textField key entries) ↔ (fieldOrNull key entries).hasLong = true := escapes_textOf

theorem escapes_requiredText : Escapes (requiredText place key entries) ↔
    (fieldOrNull key entries).hasLong = true := by
  unfold requiredText
  rw [escapes_bind, escapes_textField, or_iff_left]
  rintro ⟨s, -, h⟩
  split at h
  · exact absurd (escapes_error.mp h) (by simp [DocumentError.isExplained])
  · exact not_escapes_pure _ h

theorem escapes_flagField : Escapes (flagField place key entries) ↔
    (fieldOrNull key entries).hasLong = true := by
  unfold flagField
  rw [escapes_bind, escapes_shown, or_iff_left]
  rintro ⟨s, -, h⟩
  split at h
  · exact not_escapes_ok _ h
  · exact absurd (escapes_error.mp h) (by simp [DocumentError.isExplained])

theorem not_escapes_mappingOf : ¬ Escapes (mappingOf place v) := by
  unfold mappingOf
  split <;> simp [DocumentError.isExplained]

theorem not_escapes_itemsOf : ¬ Escapes (itemsOf place v) := by
  unfold itemsOf
  split <;> simp [DocumentError.isExplained]

theorem not_escapes_entryOf : ¬ Escapes (entryOf place v) := by
  unfold entryOf
  split <;> simp [DocumentError.isExplained]

theorem not_escapes_mapGroupOf {name : String} : ¬ Escapes (Heading.mapGroupOf name v) := by
  unfold Heading.mapGroupOf
  split <;> simp [DocumentError.isExplained]

theorem not_escapes_readTypeText {registry : Registry} {package text : String} :
    ¬ Escapes (readTypeText registry package text) := by
  rintro ⟨e, he, h⟩
  rw [isExplained_of_readTypeText he] at h
  cases h

theorem escapes_literalOf : Escapes (literalOf v) ↔ v.hasLong = true := by
  unfold literalOf
  split
  · exact iff_of_false (not_escapes_ok _) nofun
  · exact escapes_shown

end Fields

/-! ### Lists -/

section Lists

variable {α β : Type} {good bad : α → Prop}

/-- Some item is bad and all before it are good. -/
def First (good bad : α → Prop) (items : List α) : Prop :=
  ∃ before item after, items = before ++ item :: after ∧ (∀ other ∈ before, good other) ∧ bad item

theorem not_first_nil : ¬ First good bad [] := by
  rintro ⟨before, item, after, h, -⟩
  simp at h

theorem first_cons {item : α} {items : List α} :
    First good bad (item :: items) ↔ bad item ∨ good item ∧ First good bad items := by
  constructor
  · rintro ⟨before, other, after, h, hgood, hbad⟩
    cases before with
    | nil =>
      cases h
      exact Or.inl hbad
    | cons first before =>
      cases h
      obtain ⟨hfirst, hbefore⟩ := List.forall_mem_cons.mp hgood
      exact Or.inr ⟨hfirst, before, other, after, rfl, hbefore, hbad⟩
  · rintro (h | ⟨h, before, other, after, rfl, hgood, hbad⟩)
    · exact ⟨[], item, items, rfl, List.forall_mem_nil _, h⟩
    · exact ⟨item :: before, other, after, rfl, List.forall_mem_cons.mpr ⟨h, hgood⟩, hbad⟩

variable {σ : Type} {go : σ → List α → Describing σ} {step : σ → α → Describing σ}
  {wrong : σ → α → Prop}

def FirstAfter (go : σ → List α → Describing σ) (wrong : σ → α → Prop) (start : σ)
    (items : List α) : Prop :=
  ∃ before item after next, items = before ++ item :: after ∧ go start before = .ok next ∧
    wrong next item

theorem escapes_iff_firstAfter (hnil : ∀ s, go s [] = .ok s)
    (hcons : ∀ s item items, go s (item :: items) = step s item >>= fun next => go next items)
    (hstep : ∀ s item, Escapes (step s item) ↔ wrong s item) {start : σ} {items : List α} :
    Escapes (go start items) ↔ FirstAfter go wrong start items := by
  induction items generalizing start with
  | nil =>
    rw [hnil]
    refine iff_of_false (not_escapes_ok _) ?_
    rintro ⟨before, item, after, next, h, -⟩
    simp at h
  | cons item items ih =>
    rw [hcons, escapes_bind, hstep]
    constructor
    · rintro (h | ⟨mid, hm, h⟩)
      · exact ⟨[], item, items, start, rfl, hnil start, h⟩
      · obtain ⟨before, other, after, next, rfl, hb, h⟩ := ih.mp h
        refine ⟨item :: before, other, after, next, rfl, ?_, h⟩
        rw [hcons, hm]
        exact hb
    · rintro ⟨_ | ⟨first, before⟩, other, after, next, hi, hb, h⟩
      · cases hi
        cases (hnil start).symm.trans hb
        exact Or.inl h
      · cases hi
        obtain ⟨mid, hm, hb⟩ := bind_eq_ok.mp ((hcons _ _ _).symm.trans hb)
        exact Or.inr ⟨mid, hm, ih.mpr ⟨before, other, after, next, rfl, hb, h⟩⟩

end Lists

end FluentKotlin
