import FluentKotlin.Kotlin.Code.Format
import FluentKotlin.Proofs.Pointwise
import Mathlib.Logic.Relation

/-! # When code has a text

A block has a text where its arguments have one in their holes, and a block in a literal hole has to
have a text itself. So all is said by the levels of a block: the block and the blocks that are
formatted on the way. At each of them every hole has an argument of its kind, and no argument is
left over. A surplus that begins with null is let pass, and so is a type variable for a name.
-/

namespace FluentKotlin

variable {classText : ClassName → String}

def Argument.textFor (classText : ClassName → String) (h : Hole) (a : Argument) :
    Except FormatError String :=
  a.textForWith classText h (a.literalTextWith classText)

/-- Arguments that are left over are let pass where there are none, or the first one is null. -/
def surplusPasses (as : List Argument) : Prop := as = [] ∨ ∃ more, as = .scalar .null :: more

theorem isNull_iff {a : Argument} : a.isNull = true ↔ a = .scalar .null := by
  cases a with
  | scalar s => cases s <;> simp [Argument.isNull]
  | _ => simp [Argument.isNull]

theorem holeTextsWith_eq_ok {format : String} {hs : List Hole} {as : List Argument}
    {texts : List String} :
    holeTextsWith classText format hs as = .ok texts ↔
      hs.length ≤ as.length ∧ surplusPasses (as.drop hs.length) ∧
        List.Forall₂ (fun p text => p.2.textFor classText p.1 = .ok text) (hs.zip as) texts := by
  induction hs generalizing as texts with
  | nil =>
    cases as with
    | nil =>
      rw [holeTextsWith, Except.ok.injEq]
      simp [surplusPasses, @eq_comm _ []]
    | cons a as =>
      rw [holeTextsWith]
      by_cases ha : a.isNull = true
      · simp [surplusPasses, isNull_iff.mp ha, @eq_comm _ [], Argument.isNull]
      · have hne : a ≠ .scalar .null := fun he => ha (isNull_iff.mpr he)
        simp [surplusPasses, ha, hne]
  | cons h hs ih =>
    cases as with
    | nil => simp [holeTextsWith]
    | cons a as =>
      rw [holeTextsWith, bind_eq_ok]
      simp only [bind_eq_ok, pure_eq_ok, ih, List.length_cons, Nat.add_le_add_iff_right,
        List.drop_succ_cons, List.zip_cons_cons, List.forall₂_cons_left_iff]
      constructor
      · rintro ⟨text, ht, texts, ⟨hl, hs, hf⟩, rfl⟩
        exact ⟨hl, hs, text, texts, ht, hf, rfl⟩
      · rintro ⟨hl, hs, text, texts, ht, hf, rfl⟩
        exact ⟨text, ht, texts, ⟨hl, hs, hf⟩, rfl⟩

theorem length_of_holeTextsWith {format : String} {hs : List Hole} {as : List Argument}
    {texts : List String} (h : holeTextsWith classText format hs as = .ok texts) :
    texts.length = hs.length := by
  obtain ⟨hl, _, hf⟩ := holeTextsWith_eq_ok.mp h
  rw [← hf.length_eq, List.length_zip, Nat.min_eq_left hl]

theorem formattedWith_eq_ok {format text : String} {arguments : List Argument} :
    (CodeBlock.mk format arguments).formattedWith classText = .ok text ↔
      ∃ texts, holeTextsWith classText format (holes (pieces format.toList)) arguments =
        .ok texts ∧ String.ofList (fill (pieces format.toList) texts) = text := by
  rw [CodeBlock.formattedWith]
  simp only [bind_eq_ok, pure_eq_ok]

theorem CodeBlock.formatted_of_holeTexts {format : String} {arguments : List Argument}
    {ps : List Piece} {texts : List String} (hp : pieces format.toList = ps)
    (ht : holeTextsWith ClassName.rendered format (holes ps) arguments = .ok texts) :
    (CodeBlock.mk format arguments).formatted = .ok (String.ofList (fill ps texts)) := by
  subst hp
  exact formattedWith_eq_ok.mpr ⟨texts, ht, rfl⟩

namespace Argument

variable {a : Argument}

def IsName (a : Argument) : Prop :=
  (∃ s, a = .text s) ∨ ∃ name shown, a = .declaration (some name) shown

def IsVariable (a : Argument) : Prop := ∃ name nullable, a = .type (.typeVariable name nullable)

theorem exists_typeTextWith : (∃ text, a.typeTextWith classText = .ok text) ↔ ∃ t, a = .type t := by
  cases a <;> simp [typeTextWith, type?]

theorem exists_nameText : (∃ text, a.nameText = .ok text) ↔ a.IsName ∨ a.IsVariable := by
  unfold nameText IsName IsVariable
  cases a with
  | scalar value => cases value <;> simp [name?, text]
  | type t => cases t <;> simp [name?, text]
  | code | arguments => simp [name?, text]
  | declaration name shown => cases name <;> simp [name?, text]

theorem formattedAllWith_eq_ok {bs : List CodeBlock} {texts : List String} :
    formattedAllWith classText bs = .ok texts ↔
      List.Forall₂ (fun b text => b.formattedWith classText = .ok text) bs texts :=
  eq_ok_iff_forall₂ (by rw [formattedAllWith]) fun b bs => by rw [formattedAllWith]

theorem exists_formattedAllWith_iff {bs : List CodeBlock} :
    (∃ texts, formattedAllWith classText bs = .ok texts) ↔
      ∀ b ∈ bs, ∃ text, b.formattedWith classText = .ok text := by
  simp only [formattedAllWith_eq_ok]
  exact exists_forall₂_iff

theorem exists_literalTextWith_iff :
    (∃ text, a.literalTextWith classText = .ok text) ↔
      ∀ b ∈ a.blocks, ∃ text, b.formattedWith classText = .ok text := by
  cases a with
  | scalar | type | declaration => simp [literalTextWith, blocks]
  | code b => simp [literalTextWith, blocks]
  | arguments bs =>
    have hb : (arguments bs).blocks = bs := rfl
    rw [hb, ← exists_formattedAllWith_iff]
    simp only [literalTextWith, bind_eq_ok, pure_eq_ok]
    constructor
    · rintro ⟨_, texts, hts, _⟩
      exact ⟨texts, hts⟩
    · rintro ⟨texts, hts⟩
      exact ⟨_, texts, hts, rfl⟩

end Argument

namespace CodeBlock

variable {b c d : CodeBlock}

def places (b : CodeBlock) : List Hole := holes (pieces b.format.toList)

def placed (b : CodeBlock) : List (Hole × Argument) := b.places.zip b.arguments

def surplus (b : CodeBlock) : List Argument := b.arguments.drop b.places.length

def inner (b : CodeBlock) : List CodeBlock :=
  b.placed.flatMap fun p => if p.1 = .literal then p.2.blocks else []

/-- The block itself or a block that is formatted for it, at any depth. -/
def Level (b d : CodeBlock) : Prop := Relation.ReflTransGen (fun b c => c ∈ b.inner) b d

/-- There are as many arguments as holes, and those for types and names are of that kind. -/
structure Matched (b : CodeBlock) : Prop where
  count : b.arguments.length = b.places.length
  types : ∀ a, (.type, a) ∈ b.placed → ∃ t, a = .type t
  names : ∀ a, (.name, a) ∈ b.placed → a.IsName

/-- There are arguments left over, and the first one is null. -/
def HidesSurplus (b : CodeBlock) : Prop := ∃ more, b.surplus = .scalar .null :: more

def NamesVariable (b : CodeBlock) : Prop := ∃ a, (.name, a) ∈ b.placed ∧ a.IsVariable

structure Passes (b : CodeBlock) : Prop where
  count : b.arguments.length = b.places.length ∨ b.HidesSurplus
  types : ∀ a, (.type, a) ∈ b.placed → ∃ t, a = .type t
  names : ∀ a, (.name, a) ∈ b.placed → a.IsName ∨ a.IsVariable

theorem mem_inner : c ∈ b.inner ↔ ∃ a, (.literal, a) ∈ b.placed ∧ c ∈ a.blocks := by
  unfold inner
  rw [List.mem_flatMap]
  constructor
  · rintro ⟨⟨h, a⟩, hp, hc⟩
    by_cases hl : h = .literal
    · cases hl
      exact ⟨a, hp, hc⟩
    · rw [if_neg hl] at hc
      cases hc
  · rintro ⟨a, hp, hc⟩
    exact ⟨_, hp, by simpa using hc⟩

theorem count_iff :
    b.places.length ≤ b.arguments.length ∧ surplusPasses (b.arguments.drop b.places.length) ↔
      b.arguments.length = b.places.length ∨ b.HidesSurplus := by
  unfold surplusPasses HidesSurplus surplus
  rw [List.drop_eq_nil_iff]
  constructor
  · rintro ⟨hl, hs | hs⟩
    · exact Or.inl (Nat.le_antisymm hs hl)
    · exact Or.inr hs
  · rintro (hl | ⟨more, hs⟩)
    · exact ⟨Nat.le_of_eq hl.symm, Or.inl (Nat.le_of_eq hl)⟩
    · have hlength := congrArg List.length hs
      rw [List.length_drop, List.length_cons] at hlength
      exact ⟨by omega, Or.inr ⟨more, hs⟩⟩

theorem matched_iff : b.Matched ↔ b.Passes ∧ ¬ b.HidesSurplus ∧ ¬ b.NamesVariable := by
  constructor
  · intro h
    refine ⟨⟨Or.inl h.count, h.types, fun a ha => Or.inl (h.names a ha)⟩, ?_, ?_⟩
    · rintro ⟨more, hs⟩
      rw [surplus, List.drop_of_length_le (Nat.le_of_eq h.count)] at hs
      cases hs
    · rintro ⟨a, ha, name, nullable, rfl⟩
      rcases h.names _ ha with ⟨s, hs⟩ | ⟨_, _, hs⟩
      · cases hs
      · cases hs
  · rintro ⟨h, hs, hv⟩
    refine ⟨h.count.resolve_right hs, h.types, fun a ha => ?_⟩
    exact (h.names a ha).resolve_right fun hn => hv ⟨a, ha, hn⟩

/-- A block has a text where it passes and the blocks that are formatted for it have one. -/
theorem exists_formattedWith_iff :
    (∃ text, b.formattedWith classText = .ok text) ↔
      b.Passes ∧ ∀ c ∈ b.inner, ∃ text, c.formattedWith classText = .ok text := by
  have htexts : (∃ text, b.formattedWith classText = .ok text) ↔
      (b.arguments.length = b.places.length ∨ b.HidesSurplus) ∧
        ∀ p ∈ b.placed, ∃ text, p.2.textFor classText p.1 = .ok text := by
    obtain ⟨format, arguments⟩ := b
    rw [← count_iff, and_assoc, placed, ← exists_forall₂_iff]
    simp only [formattedWith_eq_ok, holeTextsWith_eq_ok]
    constructor
    · rintro ⟨_, texts, ⟨hl, hs, hf⟩, _⟩
      exact ⟨hl, hs, texts, hf⟩
    · rintro ⟨hl, hs, texts, hf⟩
      exact ⟨_, texts, ⟨hl, hs, hf⟩, rfl⟩
  rw [htexts]
  constructor
  · rintro ⟨hcount, hp⟩
    refine ⟨⟨hcount, fun a ha => ?_, fun a ha => ?_⟩, fun c hc => ?_⟩
    · exact Argument.exists_typeTextWith.mp (hp _ ha)
    · exact Argument.exists_nameText.mp (hp _ ha)
    · obtain ⟨a, ha, hc⟩ := mem_inner.mp hc
      exact Argument.exists_literalTextWith_iff.mp (hp _ ha) c hc
  · rintro ⟨h, hinner⟩
    refine ⟨h.count, ?_⟩
    rintro ⟨hole, a⟩ ha
    cases hole with
    | type => exact Argument.exists_typeTextWith.mpr (h.types a ha)
    | name => exact Argument.exists_nameText.mpr (h.names a ha)
    | string => exact ⟨_, rfl⟩
    | literal =>
      refine Argument.exists_literalTextWith_iff.mpr fun c hc => ?_
      exact hinner c (mem_inner.mpr ⟨a, ha, hc⟩)

theorem exists_formattedWith_of_level (hd : b.Level d)
    (h : ∃ text, b.formattedWith classText = .ok text) :
    ∃ text, d.formattedWith classText = .ok text := by
  induction hd with
  | refl => exact h
  | tail _ hc ih => exact (exists_formattedWith_iff.mp ih).2 _ hc

/-- A block has a text where each of its levels passes. -/
theorem exists_formattedWith_iff_levels :
    (∃ text, b.formattedWith classText = .ok text) ↔ ∀ d, b.Level d → d.Passes := by
  constructor
  · intro h d hd
    exact (exists_formattedWith_iff.mp (exists_formattedWith_of_level hd h)).1
  · intro h
    induction b using nested_induction with
    | step b ih =>
      refine exists_formattedWith_iff.mpr ⟨h b .refl, fun c hc => ?_⟩
      obtain ⟨a, ha, hca⟩ := mem_inner.mp hc
      exact ih a (List.of_mem_zip ha).2 c hca fun d hd => h d (.head hc hd)

/-- A block has a text exactly where its levels pass. So it has one exactly where its levels are
matched, unless one of them hides a surplus or names a type variable and the block has a text. -/
theorem formatted_iff_levels (b : CodeBlock) :
    ((∃ text, b.formatted = .ok text) ↔ ∀ d, b.Level d → d.Passes) ∧
      (((∃ text, b.formatted = .ok text) ↔ ∀ d, b.Level d → d.Matched) ↔
        (∃ e, b.formatted = .error e) ∨
          ∀ d, b.Level d → ¬ d.HidesSurplus ∧ ¬ d.NamesVariable) := by
  have hpasses : (∃ text, b.formatted = .ok text) ↔ ∀ d, b.Level d → d.Passes :=
    exists_formattedWith_iff_levels
  refine ⟨hpasses, ?_⟩
  have hmatched : (∀ d, b.Level d → d.Matched) ↔
      (∃ text, b.formatted = .ok text) ∧
        ∀ d, b.Level d → ¬ d.HidesSurplus ∧ ¬ d.NamesVariable := by
    rw [hpasses]
    simp only [matched_iff, imp_and, forall_and]
  rw [hmatched]
  cases b.formatted with
  | ok text => simp
  | error e => simp

theorem formatted_surplus_null :
    ¬ ((∃ text, (CodeBlock.mk "x" [.scalar .null]).formatted = .ok text) ↔
      ∀ d, (CodeBlock.mk "x" [.scalar .null]).Level d → d.Matched) := by
  intro h
  have hcount := (h.mp ⟨"x", by rfl⟩ _ .refl).count
  exact absurd hcount (by decide)

end CodeBlock

end FluentKotlin
