import FluentKotlin.Document.TypeToken

/-! # Characters that make words

No character is both a word character and white space, and a character that starts a word also goes
on with one. So a word has no white space in it, wherever it stands.
-/

namespace FluentKotlin

namespace Text

def areApart (ss ts : List Span) : Bool :=
  ss.all fun s => ts.all fun t => decide (s.last < t.first) || decide (t.last < s.first)

theorem not_inSpans_of_areApart {ss ts : List Span} {n : Nat} (h : areApart ss ts = true)
    (hn : inSpans ss n = true) : inSpans ts n = false := by
  obtain ⟨s, hs, hsn⟩ := (inSpans_iff ss n).mp hn
  rw [Bool.eq_false_iff]
  intro ht
  obtain ⟨t, ht, htn⟩ := (inSpans_iff ts n).mp ht
  have hst := List.all_eq_true.mp (List.all_eq_true.mp h s hs) t ht
  simp only [Bool.or_eq_true, decide_eq_true_eq] at hst
  obtain ⟨hs₁, hs₂, _⟩ := (Span.covers_iff s n).mp hsn
  obtain ⟨ht₁, ht₂, _⟩ := (Span.covers_iff t n).mp htn
  omega

theorem isBlank_of_isLetter {c : Char} (h : isLetter c = true) : isBlank c = false := by
  have hapart : areApart letterSpans blankSpans = true := by decide +kernel
  exact not_inSpans_of_areApart hapart h

theorem isBlank_of_isNumber {c : Char} (h : isNumber c = true) : isBlank c = false := by
  have hapart : areApart numberSpans blankSpans = true := by decide +kernel
  exact not_inSpans_of_areApart hapart h

theorem isBlank_of_isWord {c : Char} (h : isWord c = true) : isBlank c = false := by
  simp only [isWord, Bool.or_eq_true, beq_iff_eq] at h
  rcases h with (rfl | h) | h
  · decide
  · exact isBlank_of_isLetter h
  · exact isBlank_of_isNumber h

theorem isUpper_iff {c : Char} : c.isUpper = true ↔ 0x41 ≤ c.toNat ∧ c.toNat ≤ 0x5a :=
  decide_eq_true_iff.trans (and_congr UInt32.le_iff_toNat_le UInt32.le_iff_toNat_le)

theorem isLower_iff {c : Char} : c.isLower = true ↔ 0x61 ≤ c.toNat ∧ c.toNat ≤ 0x7a :=
  Bool.and_eq_true_iff.trans (and_congr (decide_eq_true_iff.trans UInt32.le_iff_toNat_le)
    (decide_eq_true_iff.trans UInt32.le_iff_toNat_le))

theorem isAlpha_iff {c : Char} : c.isAlpha = true ↔
    (0x41 ≤ c.toNat ∧ c.toNat ≤ 0x5a) ∨ 0x61 ≤ c.toNat ∧ c.toNat ≤ 0x7a :=
  Bool.or_eq_true_iff.trans (or_congr isUpper_iff isLower_iff)

theorem isLetter_of_isAlpha {c : Char} (h : c.isAlpha = true) : isLetter c = true := by
  rcases isAlpha_iff.mp h with h | h
  · exact (inSpans_iff _ _).mpr ⟨⟨0x41, 0x5a, 1⟩, List.mem_cons_self,
      Span.covers_interval_iff.mpr h⟩
  · exact (inSpans_iff _ _).mpr ⟨⟨0x61, 0x7a, 1⟩, List.mem_cons_of_mem _ List.mem_cons_self,
      Span.covers_interval_iff.mpr h⟩

end Text

namespace TypeToken

variable {c : Char}

theorem continuesWord_of_isLetter (h : Text.isLetter c = true) : continuesWord c = true := by
  simp [continuesWord, Text.isWord, h]

theorem continuesWord_of_startsWord (h : startsWord c = true) : continuesWord c = true := by
  rcases (Bool.or_eq_true _ _).mp h with h | h
  · exact continuesWord_of_isLetter (Text.isLetter_of_isAlpha h)
  · rw [beq_iff_eq.mp h]
    decide

theorem isBlank_of_continuesWord (h : continuesWord c = true) : Text.isBlank c = false := by
  rcases (Bool.or_eq_true _ _).mp h with h | h
  · rw [beq_iff_eq.mp h]
    decide
  · exact Text.isBlank_of_isWord h

end TypeToken

end FluentKotlin
