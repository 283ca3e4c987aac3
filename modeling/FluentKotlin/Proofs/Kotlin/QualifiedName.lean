import FluentKotlin.Kotlin.ClassName
import FluentKotlin.Proofs.Text.Segments

/-! # Qualified names

A text is a qualified name when some segment between its dots is not empty, and every such text
denotes a class. The segments of the text are those of the package and of the enclosing classes and
the simple name of the class, in this order.
-/

namespace FluentKotlin

theorem splitAtClass_snd_ne_nil {parts : List String} (h : parts ≠ []) :
    (splitAtClass parts).2 ≠ [] := by
  have hpos := List.length_pos_of_ne_nil h
  unfold splitAtClass
  dsimp only
  by_cases hlt : (parts.takeWhile (!startsUppercase ·)).length < parts.length
  · rw [if_pos hlt]
    exact List.ne_nil_of_length_pos (by rw [List.length_drop]; omega)
  · rw [if_neg hlt]
    exact List.ne_nil_of_length_pos (by rw [List.length_drop]; omega)

theorem exists_splitLast? {names : List String} (h : names ≠ []) :
    ∃ before last, splitLast? names = some (before, last) :=
  ⟨names.dropLast, names.getLast h, splitLast?_eq_some.mpr (List.dropLast_append_getLast h).symm⟩

theorem drop_length_takeWhile (p : String → Bool) (parts : List String) :
    parts.drop (parts.takeWhile p).length = parts.dropWhile p := by
  have h : ((parts.takeWhile p) ++ (parts.dropWhile p)).drop (parts.takeWhile p).length =
      parts.dropWhile p := List.drop_left
  rwa [List.takeWhile_append_dropWhile] at h

theorem splitAtClass_append (parts : List String) :
    (splitAtClass parts).1 ++ (splitAtClass parts).2 = parts := by
  unfold splitAtClass
  dsimp only
  split
  · have hp : parts.takeWhile (!startsUppercase ·) <+: parts := List.takeWhile_prefix _
    exact (List.prefix_iff_eq_append.mp hp)
  · rw [List.dropLast_eq_take, List.take_append_drop]

theorem small_of_splitAtClass {parts : List String} {s : String} (h : s ∈ (splitAtClass parts).1) :
    startsUppercase s = false := by
  unfold splitAtClass at h
  dsimp only at h
  by_cases hl : (parts.takeWhile (!startsUppercase ·)).length < parts.length
  · rw [if_pos hl] at h
    simpa using List.mem_takeWhile_imp h
  · rw [if_neg hl] at h
    have hp : parts.takeWhile (!startsUppercase ·) <+: parts := List.takeWhile_prefix _
    have he := hp.eq_of_length_le (Nat.le_of_not_lt hl)
    have hm : s ∈ parts.takeWhile (!startsUppercase ·) := he.symm ▸ List.dropLast_subset _ h
    simpa using List.mem_takeWhile_imp hm

theorem capital_of_splitAtClass {parts enclosing : List String} {s last : String}
    (h : (splitAtClass parts).2 = s :: enclosing ++ [last]) : startsUppercase s = true := by
  unfold splitAtClass at h
  dsimp only at h
  split at h
  · dsimp only at h
    have hd := List.head?_dropWhile_not (!startsUppercase ·) parts
    rw [← drop_length_takeWhile, h] at hd
    simpa using hd
  · have hl := congrArg List.length h
    simp only [List.length_drop, List.length_append, List.length_cons, List.length_nil] at hl
    omega

namespace ClassName

variable {text : String}

/-- The text has a segment that is not empty, so it names a class. -/
def IsName (text : String) : Prop := nameSegments text ≠ []

/-- The text has a character that stays when it is cut at white space and dots. -/
def Spells (text : String) : Prop :=
  ∃ c ∈ text.toList, Text.isBlank c = false ∧ c ≠ '.'

theorem Spells.append_left (h : Spells text) (before : String) : Spells (before ++ text) := by
  obtain ⟨c, hc, hb, hd⟩ := h
  refine ⟨c, ?_, hb, hd⟩
  rw [String.toList_append]
  exact List.mem_append_right _ hc

theorem Spells.append_right (h : Spells text) (after : String) : Spells (text ++ after) := by
  obtain ⟨c, hc, hb, hd⟩ := h
  refine ⟨c, ?_, hb, hd⟩
  rw [String.toList_append]
  exact List.mem_append_left _ hc

theorem Spells.isName (h : Spells text) : IsName text := by
  obtain ⟨c, hc, hb, hd⟩ := h
  have ht : c ∈ (Text.trim text).toList := by
    rw [Text.toList_trim]
    exact Text.mem_trimChars hc hb
  obtain ⟨s, hs, hm⟩ := Text.exists_mem_segments ht hd
  have hne : s ≠ "" := by
    rintro rfl
    cases hm
  have hf : s ∈ nameSegments text := List.mem_filter.mpr ⟨hs, by simpa using hne⟩
  exact List.ne_nil_of_mem hf

theorem not_isName_empty : ¬ IsName "" := by
  unfold IsName
  decide

/-- The segments of a text without white space around it are what its dots divide. -/
theorem isName_trim :
    IsName (Text.trim text) ↔ ∃ s ∈ Text.segments '.' (Text.trim text), s ≠ "" := by
  unfold IsName nameSegments
  rw [Text.trim_trim, Ne, List.filter_eq_nil_iff]
  simp

theorem nameSegments_of_unspaced (h : ∀ c ∈ text.toList, Text.isBlank c = false) :
    nameSegments text = (Text.segments '.' text).filter (· ≠ "") := by
  unfold nameSegments
  rw [Text.trim_eq_self h]

theorem exists_ofQualified (h : IsName text) : ∃ c, ofQualified text = .ok c := by
  obtain ⟨before, last, hl⟩ := exists_splitLast? (splitAtClass_snd_ne_nil h)
  unfold ofQualified
  cases hs : splitAtClass (nameSegments text) with
  | mk package names =>
    rw [hs] at hl
    dsimp only at hl ⊢
    rw [hl]
    exact ⟨_, rfl⟩

theorem ofQualified_of_not_isName (h : ¬ IsName text) :
    ofQualified text = .error (.invalid text) := by
  have hn : nameSegments text = [] := not_not.mp h
  unfold ofQualified
  rw [hn]
  rfl

theorem isName_of_ofQualified {c : ClassName} (h : ofQualified text = .ok c) : IsName text := by
  by_contra hn
  rw [ofQualified_of_not_isName hn] at h
  cases h

theorem mem_nameSegments {s : String} (h : s ∈ nameSegments text) :
    s ≠ "" ∧ '.' ∉ s.toList ∧ ∀ c ∈ s.toList, c ∈ text.toList := by
  obtain ⟨hs, hne⟩ := List.mem_filter.mp h
  refine ⟨by simpa using hne, Text.not_mem_of_mem_segments hs, fun c hc => ?_⟩
  have ht := Text.mem_of_mem_segments hs hc
  rw [Text.toList_trim] at ht
  exact Text.mem_of_mem_trimChars ht

def packageSegments (c : ClassName) : List String :=
  if c.package = "" then [] else Text.segments '.' c.package

theorem intercalate_packageSegments (c : ClassName) :
    String.intercalate "." c.packageSegments = c.package := by
  unfold packageSegments
  by_cases hp : c.package = ""
  · rw [if_pos hp, hp]
    rfl
  · rw [if_neg hp]
    exact Text.intercalate_segments '.' c.package

/-- A class without dots in its names is written with the segments of its package and these. -/
theorem segments_canonicalName {c : ClassName} (h : ∀ s ∈ c.simpleNames, '.' ∉ s.toList) :
    Text.segments '.' c.canonicalName = c.packageSegments ++ c.simpleNames := by
  have hlocal : Text.segments '.' c.localName = c.simpleNames :=
    Text.segments_intercalate h (by simp [simpleNames])
  unfold canonicalName packageSegments
  split
  · exact hlocal
  · rw [Text.segments_below, hlocal]

/-- How the segments of a qualified name are shared out among the package and the names. -/
structure Shared (text : String) (c : ClassName) (before : List String) : Prop where
  segments : nameSegments text = before ++ c.simpleNames
  package : c.package = String.intercalate "." before
  nonNull : c.nullable = false
  small : ∀ s ∈ before, startsUppercase s = false
  capital : ∀ s ∈ c.enclosing.head?, startsUppercase s = true

theorem exists_shared {c : ClassName} (h : ofQualified text = .ok c) :
    ∃ before, Shared text c before := by
  unfold ofQualified at h
  cases hs : splitAtClass (nameSegments text) with
  | mk package names =>
    rw [hs] at h
    dsimp only at h
    cases hl : splitLast? names with
    | none =>
      rw [hl] at h
      cases h
    | some last =>
      obtain ⟨enclosing, simpleName⟩ := last
      rw [hl] at h
      cases h
      obtain rfl := splitLast?_eq_some.mp hl
      have happend := splitAtClass_append (nameSegments text)
      have hsmall := @small_of_splitAtClass (nameSegments text)
      rw [hs] at happend hsmall
      refine ⟨package, happend.symm, rfl, rfl, fun s hm => hsmall hm, ?_⟩
      intro s hm
      cases enclosing with
      | nil => cases hm
      | cons t ts =>
        cases hm
        exact capital_of_splitAtClass (congrArg Prod.snd hs)

theorem Shared.simpleName_mem {c : ClassName} {before : List String} (h : Shared text c before) :
    c.simpleName ∈ nameSegments text := by
  rw [h.segments]
  exact List.mem_append_right _ (List.mem_append_right _ (List.mem_singleton_self _))

theorem Shared.mem_of_before {c : ClassName} {before : List String} (h : Shared text c before) :
    ∀ s ∈ before, s ∈ nameSegments text := by
  intro s hs
  rw [h.segments]
  exact List.mem_append_left _ hs

/-- The package of a class tells the segments before it. -/
theorem Shared.before_eq {c : ClassName} {before : List String} (h : Shared text c before) :
    before = c.packageSegments := by
  unfold packageSegments
  cases before with
  | nil =>
    have hp : c.package = "" := h.package
    rw [if_pos hp]
  | cons s ss =>
    have hm := fun t ht => mem_nameSegments (h.mem_of_before t ht)
    have hs : Text.segments '.' c.package = s :: ss := by
      rw [h.package]
      exact Text.segments_intercalate (fun t ht => (hm t ht).2.1) (List.cons_ne_nil _ _)
    have hne : c.package ≠ "" := by
      intro he
      rw [he, Text.segments_eq_singleton (by decide)] at hs
      exact (hm s List.mem_cons_self).1 (List.cons.inj hs).1.symm
    rw [if_neg hne, hs]

theorem simpleName_ne_empty {c : ClassName} (h : ofQualified text = .ok c) :
    c.simpleName ≠ "" := by
  obtain ⟨_, hs⟩ := exists_shared h
  exact (mem_nameSegments hs.simpleName_mem).1

theorem Shared.enclosing_eq_nil_iff {c : ClassName} {before : List String}
    (h : Shared text c before) :
    c.enclosing = [] ↔ ∀ s ∈ (nameSegments text).dropLast, startsUppercase s = false := by
  have hd : (nameSegments text).dropLast = before ++ c.enclosing := by
    rw [h.segments, simpleNames, ← List.append_assoc, List.dropLast_concat]
  rw [hd]
  constructor
  · intro he s hs
    rw [he, List.append_nil] at hs
    exact h.small s hs
  · intro hall
    cases he : c.enclosing with
    | nil => rfl
    | cons s ss =>
      have hc := h.capital s (by rw [he]; rfl)
      have hf := hall s (List.mem_append_right _ (he ▸ List.mem_cons_self))
      rw [hc] at hf
      cases hf

theorem Shared.segments_canonicalName {c : ClassName} {before : List String}
    (h : Shared text c before) : Text.segments '.' c.canonicalName = nameSegments text := by
  rw [h.segments, h.before_eq]
  refine ClassName.segments_canonicalName fun s hs => (@mem_nameSegments text _ ?_).2.1
  rw [h.segments]
  exact List.mem_append_right _ hs

/-- A name that loses nothing when it is cut into segments is the name of its class. -/
theorem canonicalName_of_ofQualified {c : ClassName} (h : ofQualified text = .ok c)
    (hs : nameSegments text = Text.segments '.' text) : c.canonicalName = text := by
  obtain ⟨_, hshared⟩ := exists_shared h
  exact Text.eq_of_segments_eq (hshared.segments_canonicalName.trans hs)

end ClassName

end FluentKotlin
