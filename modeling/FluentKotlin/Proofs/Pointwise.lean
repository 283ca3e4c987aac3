import FluentKotlin.Proofs.Report.Value
import Mathlib.Data.List.Forall2
import Mathlib.Data.List.Perm.Basic

/-! # Lists related item by item

Every item of either list has a partner in the other.
-/

namespace FluentKotlin

variable {α β : Type} {R S : α → β → Prop} {as : List α} {bs : List β}

theorem exists_mem_right {a : α} (h : List.Forall₂ R as bs) (ha : a ∈ as) : ∃ b ∈ bs, R a b := by
  induction h with
  | nil => cases ha
  | cons hr _ ih =>
    rcases List.mem_cons.mp ha with rfl | ha
    · exact ⟨_, List.mem_cons_self, hr⟩
    · obtain ⟨b, hb, hab⟩ := ih ha
      exact ⟨b, List.mem_cons_of_mem _ hb, hab⟩

theorem exists_mem_left {b : β} (h : List.Forall₂ R as bs) (hb : b ∈ bs) : ∃ a ∈ as, R a b :=
  exists_mem_right h.flip hb

theorem exists_mem_iff_of_forall₂ {P : β → Prop} {Q : α → Prop} (h : List.Forall₂ R as bs)
    (hi : ∀ a b, R a b → (P b ↔ Q a)) : (∃ b ∈ bs, P b) ↔ ∃ a ∈ as, Q a := by
  constructor
  · rintro ⟨b, hb, hp⟩
    obtain ⟨a, ha, hr⟩ := exists_mem_left h hb
    exact ⟨a, ha, (hi a b hr).mp hp⟩
  · rintro ⟨a, ha, hq⟩
    obtain ⟨b, hb, hr⟩ := exists_mem_right h ha
    exact ⟨b, hb, (hi a b hr).mpr hq⟩

theorem forall_mem_iff_of_forall₂ {P : β → Prop} {Q : α → Prop} (h : List.Forall₂ R as bs)
    (hi : ∀ a b, R a b → (P b ↔ Q a)) : (∀ b ∈ bs, P b) ↔ ∀ a ∈ as, Q a := by
  constructor
  · intro hp a ha
    obtain ⟨b, hb, hr⟩ := exists_mem_right h ha
    exact (hi a b hr).mp (hp b hb)
  · intro hq b hb
    obtain ⟨a, ha, hr⟩ := exists_mem_left h hb
    exact (hi a b hr).mpr (hq a ha)

theorem forall₂_imp_of_mem (h : List.Forall₂ R as bs) (hi : ∀ a ∈ as, ∀ b, R a b → S a b) :
    List.Forall₂ S as bs := by
  have hm : List.Forall₂ (fun a b => a ∈ as ∧ R a b) as bs :=
    (List.forall₂_and_left as bs).mpr ⟨fun _ ha => ha, h⟩
  exact hm.imp fun a b hab => hi a hab.1 b hab.2

theorem map_eq_of_forall₂ {γ : Type} {f : α → γ} {g : β → γ} (h : List.Forall₂ R as bs)
    (hi : ∀ a b, R a b → f a = g b) : as.map f = bs.map g := by
  induction h with
  | nil => rfl
  | cons hr _ ih => rw [List.map_cons, List.map_cons, hi _ _ hr, ih]

theorem forall₂_comp {γ : Type} {T : β → γ → Prop} {cs : List γ} (h : List.Forall₂ R as bs)
    (h' : List.Forall₂ T bs cs) : List.Forall₂ (fun a c => ∃ b, R a b ∧ T b c) as cs := by
  induction h generalizing cs with
  | nil =>
    cases h'
    exact .nil
  | cons hr _ ih =>
    obtain _ | ⟨ht, h'⟩ := h'
    exact .cons ⟨_, hr, ht⟩ (ih h')

theorem forall₂_replicate {a : α} {b : β} (h : R a b) (n : Nat) :
    List.Forall₂ R (List.replicate n a) (List.replicate n b) := by
  induction n with
  | zero => exact .nil
  | succ n ih => exact .cons h ih

theorem exists_forall₂_iff :
    (∃ bs, List.Forall₂ R as bs) ↔ ∀ a ∈ as, ∃ b, R a b := by
  induction as with
  | nil => simp
  | cons a as ih =>
    simp only [List.forall₂_cons_left_iff, List.forall_mem_cons, ← ih]
    constructor
    · rintro ⟨_, b, bs, hb, hbs, _⟩
      exact ⟨⟨b, hb⟩, bs, hbs⟩
    · rintro ⟨⟨b, hb⟩, bs, hbs⟩
      exact ⟨_, b, bs, hb, hbs, rfl⟩

/-- A walk along a list that stops at the first error pairs every item with its result. -/
theorem eq_ok_iff_forall₂ {ε : Type} {f : α → Except ε β} {g : List α → Except ε (List β)}
    (hnil : g [] = .ok [])
    (hcons : ∀ a as, g (a :: as) = do
      let b ← f a
      let bs ← g as
      return b :: bs) :
    g as = .ok bs ↔ List.Forall₂ (fun a b => f a = .ok b) as bs := by
  induction as generalizing bs with
  | nil => rw [hnil, Except.ok.injEq, List.forall₂_nil_left_iff, eq_comm]
  | cons a as ih =>
    rw [hcons, List.forall₂_cons_left_iff]
    simp only [bind_eq_ok, pure_eq_ok, ih]
    constructor
    · rintro ⟨b, hb, bs, hbs, rfl⟩
      exact ⟨b, bs, hb, hbs, rfl⟩
    · rintro ⟨b, bs, hb, hbs, rfl⟩
      exact ⟨b, hb, bs, hbs, rfl⟩

theorem eq_nil_iff_of_perm {cs : List α} (h : as.Perm cs) : as = [] ↔ cs = [] := by
  rw [← List.length_eq_zero_iff, h.length_eq, List.length_eq_zero_iff]

/-- Items that have one partner each keep it in another order. -/
theorem perm_zip_of_forall₂ {cs : List α} {ds : List β} (hu : Relator.RightUnique R)
    (h : List.Forall₂ R as bs) (h' : List.Forall₂ R cs ds) (hp : as.Perm cs) :
    (as.zip bs).Perm (cs.zip ds) := by
  induction hp generalizing bs ds with
  | nil =>
    cases h
    cases h'
    exact .nil
  | cons a _ ih =>
    obtain _ | ⟨hb, h⟩ := h
    obtain _ | ⟨hd, h'⟩ := h'
    rw [hu hb hd]
    exact (ih h h').cons _
  | swap a c as =>
    obtain _ | ⟨hb, _ | ⟨hb', h⟩⟩ := h
    obtain _ | ⟨hd, _ | ⟨hd', h'⟩⟩ := h'
    rw [hu hb hd', hu hb' hd, List.right_unique_forall₂' hu h h']
    exact .swap _ _ _
  | trans hp₁ _ ih₁ ih₂ =>
    obtain ⟨es, he, _⟩ := List.perm_comp_forall₂ hp₁.symm h
    exact (ih₁ h he).trans (ih₂ he h')

theorem pairwise_iff_of_forall₂ {P : α → α → Prop} {Q : β → β → Prop} (h : List.Forall₂ R as bs)
    (hi : ∀ a b a' b', R a b → R a' b' → (P a a' ↔ Q b b')) :
    as.Pairwise P ↔ bs.Pairwise Q := by
  induction h with
  | nil => exact iff_of_true .nil .nil
  | @cons a b as bs hab htail ih =>
    rw [List.pairwise_cons, List.pairwise_cons, ih]
    refine and_congr_left fun _ => ?_
    constructor
    · intro hp b' hb'
      obtain ⟨a', ha', hr⟩ := exists_mem_left htail hb'
      exact (hi a b a' b' hab hr).mp (hp a' ha')
    · intro hq a' ha'
      obtain ⟨b', hb', hr⟩ := exists_mem_right htail ha'
      exact (hi a b a' b' hab hr).mpr (hq b' hb')

end FluentKotlin
