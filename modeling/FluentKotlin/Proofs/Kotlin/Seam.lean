import FluentKotlin.Proofs.Kotlin.Formatted
import Mathlib.Data.List.Induction

/-! # Code put together

A format can be put in front of another one where its scan does not end in a percent sign that is
still open. The holes of both are then filled as before, so the text of the whole is the text of the
first and then that of the second. The text of an argument is put in as it stands: percent signs in
it are not read.
-/

namespace FluentKotlin

/-- The scan ends in a percent sign that stands for itself, only because nothing comes after it. -/
def EndsOpen (cs : List Char) : Prop :=
  ∃ front, cs = front ++ ['%'] ∧ pieces cs = pieces front ++ [.char '%']

section

variable {c : Char} {cs ds lead : List Char} {ps : List Piece}

theorem EndsOpen.prepend (hp : ∀ cs, pieces (lead ++ cs) = ps ++ pieces cs) (h : EndsOpen cs) :
    EndsOpen (lead ++ cs) := by
  obtain ⟨front, rfl, hf⟩ := h
  refine ⟨lead ++ front, (List.append_assoc lead front _).symm, ?_⟩
  rw [hp, hf, hp, List.append_assoc]

theorem EndsOpen.of_cons (hc : c ≠ '%') (h : EndsOpen (c :: cs)) : EndsOpen cs := by
  obtain ⟨front, he, hf⟩ := h
  cases front with
  | nil => exact absurd (List.cons.inj he).1 hc
  | cons _ front =>
    obtain ⟨rfl, rfl⟩ := List.cons.inj he
    rw [List.append_eq, pieces_cons_of_ne hc, pieces_cons_of_ne hc] at hf
    exact ⟨front, rfl, (List.cons.inj hf).2⟩

theorem pieces_append_of_lead (hp : ∀ cs, pieces (lead ++ cs) = ps ++ pieces cs)
    (ih : ¬ EndsOpen cs → pieces (cs ++ ds) = pieces cs ++ pieces ds)
    (h : ¬ EndsOpen (lead ++ cs)) :
    pieces (lead ++ cs ++ ds) = ps ++ pieces cs ++ pieces ds := by
  rw [List.append_assoc, hp, ih fun ho => h (ho.prepend hp), List.append_assoc]

/-- A scan goes on after a text that leaves no percent sign open as if it began there. -/
theorem pieces_append (h : ¬ EndsOpen cs) (ds : List Char) :
    pieces (cs ++ ds) = pieces cs ++ pieces ds := by
  fun_induction pieces cs with
  | case1 => rfl
  | case2 c =>
    have hc : c ≠ '%' := by
      rintro rfl
      exact h ⟨[], rfl, rfl⟩
    exact pieces_cons_of_ne hc ds
  | case3 d cs k hk ih =>
    have hp : ∀ xs, pieces (['%', d] ++ xs) = [.hole k] ++ pieces xs := by simp [pieces, hk]
    exact pieces_append_of_lead hp ih h
  | case4 cs hk ih =>
    have hp : ∀ xs, pieces (['%', '%'] ++ xs) = [.char '%'] ++ pieces xs := by
      simp [pieces, Hole.ofChar?]
    exact pieces_append_of_lead hp ih h
  | case5 d cs hk hd ih =>
    have hp : ∀ xs, pieces (['%', d] ++ xs) = [.char '%', .char d] ++ pieces xs := by
      simp [pieces, hk, hd, pieces_cons_of_ne hd]
    have ih' : ¬ EndsOpen cs → pieces (cs ++ ds) = pieces cs ++ pieces ds := by
      intro ho
      have hd' := ih fun h => ho (h.of_cons hd)
      rw [List.cons_append, pieces_cons_of_ne hd, pieces_cons_of_ne hd] at hd'
      exact (List.cons.inj hd').2
    rw [pieces_cons_of_ne hd]
    exact pieces_append_of_lead hp ih' h
  | case6 c d cs hc ih =>
    have hp : ∀ xs, pieces ([c] ++ xs) = [.char c] ++ pieces xs := pieces_cons_of_ne hc
    exact pieces_append_of_lead hp ih h

end

/-- Two percent signs that meet at the seam become one. -/
example : pieces (['%'] ++ ['%']) ≠ pieces ['%'] ++ pieces ['%'] := by decide

theorem not_endsOpen_of_pieces {cs : List Char}
    (hp : pieces (cs ++ ['%']) = pieces cs ++ [.char '%']) : ¬ EndsOpen cs := by
  induction cs using List.reverseRecOn with
  | nil =>
    rintro ⟨_, hn, _⟩
    simp at hn
  | append_singleton ys y ih =>
    rintro ⟨zs, he, hz⟩
    obtain ⟨rfl, hy⟩ := List.append_inj' he rfl
    cases hy
    have hlength := congrArg List.length hp
    rw [List.append_assoc, pieces_append (ih hz), hz] at hlength
    simp [pieces, Hole.ofChar?] at hlength

theorem endsOpen_concat {cs : List Char} : EndsOpen (cs ++ ['%']) ↔ ¬ EndsOpen cs := by
  constructor
  · rintro ⟨front, he, hp⟩
    obtain rfl := List.append_cancel_right he
    exact not_endsOpen_of_pieces hp
  · intro h
    exact ⟨cs, rfl, pieces_append h ['%']⟩

/-- A percent sign is left open where their number at the end is odd. -/
theorem endsOpen_iff {cs : List Char} :
    EndsOpen cs ↔ (cs.reverse.takeWhile (· = '%')).length % 2 = 1 := by
  induction cs using List.reverseRecOn with
  | nil =>
    refine iff_of_false ?_ (by simp)
    rintro ⟨_, he, _⟩
    simp at he
  | append_singleton cs c ih =>
    by_cases hc : c = '%'
    · subst hc
      rw [endsOpen_concat, ih]
      simp only [List.reverse_append, List.reverse_singleton, List.singleton_append,
        decide_true, List.takeWhile_cons_of_pos, List.length_cons]
      omega
    · refine iff_of_false ?_ (by simp [hc])
      rintro ⟨front, he, _⟩
      exact hc (List.singleton_injective (List.append_inj' he rfl).2)

instance (cs : List Char) : Decidable (EndsOpen cs) := decidable_of_iff _ endsOpen_iff.symm

def Hole.letter : Hole → Char
  | .type => 'T'
  | .name => 'N'
  | .literal => 'L'
  | .string => 'S'

def Hole.written (h : Hole) : String := String.ofList ['%', h.letter]

theorem Hole.ofChar?_letter (h : Hole) : ofChar? h.letter = some h := by cases h <;> rfl

theorem Hole.pieces_written (h : Hole) : pieces h.written.toList = [.hole h] := by
  simp [written, pieces, ofChar?_letter]

theorem Hole.not_endsOpen_written (h : Hole) : ¬ EndsOpen h.written.toList := by
  rintro ⟨front, _, hp⟩
  have hlast := congrArg List.getLast? hp
  rw [h.pieces_written] at hlast
  simp at hlast

section

variable {classText : ClassName → String} {f f₁ f₂ t₁ t₂ : String} {as₁ as₂ : List Argument}

theorem holeTextsWith_append {hs₁ hs₂ : List Hole} {ts₁ ts₂ : List String}
    (hcount : as₁.length = hs₁.length) (h₁ : holeTextsWith classText f₁ hs₁ as₁ = .ok ts₁)
    (h₂ : holeTextsWith classText f₂ hs₂ as₂ = .ok ts₂) :
    holeTextsWith classText f (hs₁ ++ hs₂) (as₁ ++ as₂) = .ok (ts₁ ++ ts₂) := by
  obtain ⟨_, _, hf₁⟩ := holeTextsWith_eq_ok.mp h₁
  obtain ⟨hl, hs, hf₂⟩ := holeTextsWith_eq_ok.mp h₂
  refine holeTextsWith_eq_ok.mpr ⟨?_, ?_, ?_⟩
  · simp only [List.length_append]
    omega
  · rwa [List.length_append, ← hcount, List.drop_length_add_append]
  · rw [List.zip_append hcount.symm]
    exact List.rel_append hf₁ hf₂

theorem formattedWith_append (hopen : ¬ EndsOpen f₁.toList)
    (hcount : as₁.length = (CodeBlock.mk f₁ as₁).places.length)
    (h₁ : (CodeBlock.mk f₁ as₁).formattedWith classText = .ok t₁)
    (h₂ : (CodeBlock.mk f₂ as₂).formattedWith classText = .ok t₂) :
    (CodeBlock.mk (f₁ ++ f₂) (as₁ ++ as₂)).formattedWith classText = .ok (t₁ ++ t₂) := by
  obtain ⟨ts₁, hts₁, rfl⟩ := formattedWith_eq_ok.mp h₁
  obtain ⟨ts₂, hts₂, rfl⟩ := formattedWith_eq_ok.mp h₂
  have hlength : (holes (pieces f₁.toList)).length = ts₁.length :=
    (length_of_holeTextsWith hts₁).symm
  refine formattedWith_eq_ok.mpr ⟨ts₁ ++ ts₂, ?_, ?_⟩
  · rw [String.toList_append, pieces_append hopen, holes_append]
    exact holeTextsWith_append hcount hts₁ hts₂
  · rw [String.toList_append, pieces_append hopen, fill_append hlength, String.ofList_append]

theorem Hole.formattedWith_written {h : Hole} {a : Argument} {text : String}
    (ht : a.textFor classText h = .ok text) :
    (CodeBlock.mk h.written [a]).formattedWith classText = .ok text := by
  refine formattedWith_eq_ok.mpr ⟨[text], ?_, ?_⟩
  · rw [h.pieces_written]
    exact holeTextsWith_eq_ok.mpr ⟨Nat.le_refl _, Or.inl rfl, .cons ht .nil⟩
  · rw [h.pieces_written]
    simp [fill]

end

namespace CodeBlock

variable {f₁ f₂ t₁ t₂ : String} {as₁ as₂ : List Argument}

/-- Blocks that are put together have their texts one after the other, and a hole between them has
the text of its argument, whatever signs are in it. -/
theorem formatted_joined (hopen : ¬ EndsOpen f₁.toList)
    (hcount : as₁.length = (CodeBlock.mk f₁ as₁).places.length)
    (h₁ : (CodeBlock.mk f₁ as₁).formatted = .ok t₁)
    (h₂ : (CodeBlock.mk f₂ as₂).formatted = .ok t₂) :
    (CodeBlock.mk (f₁ ++ f₂) (as₁ ++ as₂)).formatted = .ok (t₁ ++ t₂) ∧
      ∀ (h : Hole) (a : Argument) (text : String), a.textFor ClassName.rendered h = .ok text →
        (CodeBlock.mk (f₁ ++ h.written ++ f₂) (as₁ ++ a :: as₂)).formatted =
          .ok (t₁ ++ text ++ t₂) := by
  refine ⟨formattedWith_append hopen hcount h₁ h₂, fun h a text ht => ?_⟩
  have hrest : (CodeBlock.mk (h.written ++ f₂) ([a] ++ as₂)).formatted = .ok (text ++ t₂) := by
    refine formattedWith_append h.not_endsOpen_written ?_ (h.formattedWith_written ht) h₂
    rw [places, h.pieces_written]
    rfl
  rw [String.append_assoc, String.append_assoc]
  exact formattedWith_append hopen hcount h₁ hrest

/-- The percent signs in the texts of the arguments make no hole. -/
theorem formatted_joined_percents :
    (CodeBlock.mk ("%L%%" ++ " by %N") ([.text "%T"] ++ [.text "%S"])).formatted =
        .ok ("%T%" ++ " by %S") ∧
      (CodeBlock.mk ("%L%%" ++ Hole.literal.written ++ " by %N")
          ([.text "%T"] ++ .text "%" :: [.text "%S"])).formatted =
        .ok ("%T%" ++ "%" ++ " by %S") := by
  have hjoined := @formatted_joined "%L%%" " by %N" "%T%" " by %S" [.text "%T"] [.text "%S"]
    (by decide) rfl rfl rfl
  exact ⟨hjoined.1, hjoined.2 .literal (.text "%") "%" rfl⟩

end CodeBlock

end FluentKotlin
