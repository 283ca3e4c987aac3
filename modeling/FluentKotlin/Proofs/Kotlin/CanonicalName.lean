import FluentKotlin.Proofs.Kotlin.QualifiedName

/-! # Canonical names

A class that a qualified name denotes has a small package, and where its names are several a capital
one is the first of them. Its canonical name is the qualified name without the empty segments, and
every class of this shape is the one that its canonical name denotes.
-/

namespace FluentKotlin

structure IsSegment (s : String) : Prop where
  ne_empty : s ≠ ""
  undotted : '.' ∉ s.toList
  unspaced : ∀ c ∈ s.toList, Text.isBlank c = false

theorem isSegment_iff (s : String) : IsSegment s ↔
    s ≠ "" ∧ '.' ∉ s.toList ∧ s.toList.all (!Text.isBlank ·) = true := by
  rw [List.all_eq_true]
  simp only [Bool.not_eq_true']
  exact ⟨fun h => ⟨h.ne_empty, h.undotted, h.unspaced⟩, fun h => ⟨h.1, h.2.1, h.2.2⟩⟩

instance (s : String) : Decidable (IsSegment s) := decidable_of_iff' _ (isSegment_iff s)

section Cut

variable {before names : List String} {s : String}

/-- A capital segment behind small ones is where the names begin. -/
theorem splitAtClass_of_capital (hb : ∀ t ∈ before, startsUppercase t = false)
    (hs : startsUppercase s = true) : splitAtClass (before ++ s :: names) = (before, s :: names) := by
  have htake : (before ++ s :: names).takeWhile (!startsUppercase ·) = before := by
    rw [List.takeWhile_append_of_pos (by simpa using hb),
      List.takeWhile_cons_of_neg (by simp [hs]), List.append_nil]
  unfold splitAtClass
  rw [htake, if_pos (by simp), List.drop_left]

/-- Where all segments are small, the last one is the name. -/
theorem splitAtClass_of_small (hb : ∀ t ∈ before, startsUppercase t = false)
    (hs : startsUppercase s = false) : splitAtClass (before ++ [s]) = (before, [s]) := by
  have htake : (before ++ [s]).takeWhile (!startsUppercase ·) = before ++ [s] := by
    rw [List.takeWhile_eq_self_iff, List.forall_mem_append]
    exact ⟨by simpa using hb, by simp [hs]⟩
  unfold splitAtClass
  rw [htake, if_neg (lt_irrefl _), List.dropLast_concat]
  simp

theorem splitAtClass_concat (hb : ∀ t ∈ before, startsUppercase t = false) (s : String) :
    splitAtClass (before ++ [s]) = (before, [s]) := by
  cases hs : startsUppercase s with
  | true => exact splitAtClass_of_capital hb hs
  | false => exact splitAtClass_of_small hb hs

end Cut

namespace ClassName

variable {text : String} {c : ClassName}

/-- The shape of the classes that qualified names denote. -/
structure Shaped (c : ClassName) : Prop where
  segments : ∀ s ∈ c.packageSegments ++ c.simpleNames, IsSegment s
  small : ∀ s ∈ c.packageSegments, startsUppercase s = false
  capital : startsUppercase c.topName = true ∨ c.enclosing = []
  nonNull : c.nullable = false

instance (c : ClassName) : Decidable c.Shaped :=
  decidable_of_iff ((∀ s ∈ c.packageSegments ++ c.simpleNames, IsSegment s) ∧
      (∀ s ∈ c.packageSegments, startsUppercase s = false) ∧
      (startsUppercase c.topName = true ∨ c.enclosing = []) ∧ c.nullable = false)
    ⟨fun h => ⟨h.1, h.2.1, h.2.2.1, h.2.2.2⟩,
      fun h => ⟨h.segments, h.small, h.capital, h.nonNull⟩⟩

theorem Shared.shaped {before : List String} (h : Shared text c before)
    (hs : ∀ c ∈ text.toList, Text.isBlank c = false) : c.Shaped where
  segments s hm := by
    rw [← h.before_eq, ← h.segments] at hm
    obtain ⟨hne, hdot, hmem⟩ := mem_nameSegments hm
    exact ⟨hne, hdot, fun c hc => hs c (hmem c hc)⟩
  small s hm := h.small s (h.before_eq ▸ hm)
  capital := by
    cases he : c.enclosing with
    | nil => exact Or.inr rfl
    | cons s ss =>
      left
      rw [topName, he]
      exact h.capital s (by rw [he]; rfl)
  nonNull := h.nonNull

theorem Shared.canonicalName_eq {before : List String} (h : Shared text c before) :
    c.canonicalName = String.intercalate "." (nameSegments text) := by
  rw [← h.segments_canonicalName]
  exact (Text.intercalate_segments '.' c.canonicalName).symm

theorem Shaped.segments_canonicalName (h : c.Shaped) :
    Text.segments '.' c.canonicalName = c.packageSegments ++ c.simpleNames :=
  ClassName.segments_canonicalName fun s hs => (h.segments s (List.mem_append_right _ hs)).undotted

theorem Shaped.nameSegments_canonicalName (h : c.Shaped) :
    nameSegments c.canonicalName = c.packageSegments ++ c.simpleNames := by
  have hs : ∀ d ∈ c.canonicalName.toList, Text.isBlank d = false := by
    intro d hd
    by_cases hdot : d = '.'
    · rw [hdot]
      decide
    · obtain ⟨t, ht, hm⟩ := Text.exists_mem_segments hd hdot
      rw [h.segments_canonicalName] at ht
      exact (h.segments t ht).unspaced d hm
  rw [nameSegments_of_unspaced hs, h.segments_canonicalName, List.filter_eq_self]
  exact fun t ht => decide_eq_true (h.segments t ht).ne_empty

theorem Shaped.splitAtClass_eq (h : c.Shaped) :
    splitAtClass (c.packageSegments ++ c.simpleNames) = (c.packageSegments, c.simpleNames) := by
  rw [simpleNames]
  cases he : c.enclosing with
  | nil => exact splitAtClass_concat h.small c.simpleName
  | cons s ss =>
    refine splitAtClass_of_capital h.small ?_
    rcases h.capital with hc | hc
    · rwa [topName, he] at hc
    · rw [he] at hc
      cases hc

theorem Shaped.ofQualified_eq (h : c.Shaped) : ofQualified c.canonicalName = .ok c := by
  have hlast : splitLast? c.simpleNames = some (c.enclosing, c.simpleName) :=
    splitLast?_eq_some.mpr rfl
  unfold ofQualified
  rw [h.nameSegments_canonicalName, h.splitAtClass_eq]
  dsimp only
  rw [hlast]
  dsimp only
  rw [intercalate_packageSegments, ← h.nonNull]

/-- Every text without white space that is more than dots denotes a class of this shape. The class
is written as the text without its empty segments, and every class of this shape is read back from
what it is written as. -/
theorem canonicalName_roundTrip :
    (∀ s : String, (∃ c ∈ s.toList, c ≠ '.') → (∀ c ∈ s.toList, Text.isBlank c = false) →
      ∃ c, ofQualified s = .ok c ∧ c.Shaped ∧
        c.canonicalName = String.intercalate "." ((Text.segments '.' s).filter (· ≠ ""))) ∧
    ∀ c : ClassName, c.Shaped → ofQualified c.canonicalName = .ok c := by
  refine ⟨fun s hd hs => ?_, fun c => Shaped.ofQualified_eq⟩
  obtain ⟨d, hd, hdot⟩ := hd
  obtain ⟨c, hc⟩ := exists_ofQualified (Spells.isName ⟨d, hd, hs d hd, hdot⟩)
  obtain ⟨before, hshared⟩ := exists_shared hc
  refine ⟨c, hc, hshared.shaped hs, ?_⟩
  rw [hshared.canonicalName_eq, nameSegments_of_unspaced hs]

/-- A capital segment in front of small ones, and a package with a small name in it. -/
theorem canonicalName_roundTrip_innerAndSmall :
    (∃ c, ofQualified ".io..x.Outer.inner." = .ok c ∧ c.Shaped ∧
      c.canonicalName = "io.x.Outer.inner") ∧
    ofQualified (ClassName.mk "io.x" [] "small" false).canonicalName =
      .ok (ClassName.mk "io.x" [] "small" false) := by
  obtain ⟨hread, hwritten⟩ := canonicalName_roundTrip
  have hs : ".io..x.Outer.inner.".toList.all (!Text.isBlank ·) = true := by decide
  obtain ⟨c, hc, hshaped, he⟩ := hread ".io..x.Outer.inner." ⟨'i', by decide, by decide⟩
    (by simpa using List.all_eq_true.mp hs)
  refine ⟨⟨c, hc, hshaped, ?_⟩, hwritten _ (by decide +kernel)⟩
  rw [he]
  decide +kernel

end ClassName

end FluentKotlin
