import FluentKotlin.Proofs.Store.Kept

/-! # Directories above every entry

A file tree is grounded where every entry has directories above it. In such a tree an entry inside a
directory shows that the directory is there already, with all directories above it, and making it
once more changes nothing.
-/

namespace FluentKotlin

namespace FileTree

variable {t t' : FileTree} {names before after : List String} {w : String}

/-- Above every entry there are directories. -/
def Grounded (t : FileTree) : Prop :=
  ∀ e ∈ t.entries, ∀ names, isInside names e.1 = true → t.isDirectory names = true

theorem way_append (hb : before ≠ []) (ha : after ≠ []) :
    way (before ++ after) = way before ++ "/" ++ way after :=
  String.intercalate_append_of_ne_nil hb ha

theorem isInside_iff (h : names ≠ []) :
    isInside names w = true ↔ (way names ++ "/").toList <+: w.toList := by
  simp [isInside, h, Text.startsWith_iff]

theorem isInside_of_append (h : isInside (before ++ after) w = true) :
    isInside before w = true := by
  rcases eq_or_ne before [] with rfl | hb
  · rfl
  rcases eq_or_ne after [] with rfl | ha
  · rwa [List.append_nil] at h
  · rw [isInside_iff (by simp [hb]), way_append hb ha] at h
    rw [isInside_iff hb]
    refine List.IsPrefix.trans ?_ h
    simp [String.toList_append]

theorem length_way_le (before after : List String) :
    (way before).length ≤ (way (before ++ after)).length := by
  rcases eq_or_ne before [] with rfl | hb
  · exact Nat.zero_le _
  rcases eq_or_ne after [] with rfl | ha
  · rw [List.append_nil]
  · rw [way_append hb ha]
    simp only [String.length_append]
    omega

theorem not_isInside_way (h : before ++ after ≠ []) :
    isInside (before ++ after) (way before) = false := by
  refine Bool.eq_false_iff.mpr fun hi => ?_
  have hl := ((isInside_iff h).mp hi).length_le
  have hle := length_way_le before after
  simp only [String.length_toList, String.length_append] at hl
  have hone : ("/" : String).length = 1 := rfl
  omega

/-- What is new in a tree in which directories were made are the directories on the way. -/
theorem mem_makeDirectories {here : List String} {e : String × FileEntry}
    (h : t.makeDirectories here names = .ok t') (he : e ∈ t'.entries) :
    e ∈ t.entries ∨ ∃ before after, names = before ++ after ∧ e.1 = way (here ++ before) := by
  induction names generalizing here t with
  | nil =>
    cases h
    exact .inl he
  | cons name names ih =>
    have inner : ∀ {u : FileTree}, u.makeDirectories (here ++ [name]) names = .ok t' →
        e ∈ u.entries ∨ ∃ before after, name :: names = before ++ after ∧
          e.1 = way (here ++ before) := by
      intro u hu
      rcases ih hu with hm | ⟨before, after, rfl, hw⟩
      · exact .inl hm
      · exact .inr ⟨name :: before, after, rfl, by simpa using hw⟩
    unfold makeDirectories at h
    dsimp only at h
    split at h
    · exact inner h
    · cases h
    · split at h
      · cases h
      · rcases inner h with hm | hm
        · rcases List.mem_cons.mp hm with rfl | hm
          · exact .inr ⟨[name], names, rfl, rfl⟩
          · exact .inl (List.mem_of_mem_filter hm)
        · exact .inr hm

theorem makeDirectories_of_isDirectory {here : List String}
    (h : ∀ before after, names = before ++ after → t.isDirectory (here ++ before) = true) :
    t.makeDirectories here names = .ok t := by
  induction names generalizing here with
  | nil => rfl
  | cons name names ih =>
    have hd : t.get? (here ++ [name]) = some .directory := by
      simpa [isDirectory] using h [name] names rfl
    unfold makeDirectories
    dsimp only
    rw [hd]
    refine ih fun before after he => ?_
    have hd := h (name :: before) after (congrArg _ he)
    simpa using hd

/-- A directory with something inside was there before it was made. -/
theorem eq_of_hasInside (hg : t.Grounded) (h : t.makeDirectories [] names = .ok t')
    (hi : t'.hasInside names = true) : t' = t := by
  obtain ⟨e, he, hin⟩ := List.any_eq_true.mp hi
  have hold : e ∈ t.entries ∨ names = [] := by
    rcases mem_makeDirectories h he with hm | ⟨before, after, rfl, hw⟩
    · exact .inl hm
    · refine .inr (by_contra fun hne => ?_)
      rw [hw, List.nil_append, not_isInside_way hne] at hin
      cases hin
  rcases hold with hm | rfl
  · have hs : t.makeDirectories [] names = .ok t :=
      makeDirectories_of_isDirectory fun before _ heq =>
        hg e hm before (isInside_of_append (heq ▸ hin))
    exact Except.ok.inj (h.symm.trans hs)
  · cases h
    rfl

end FileTree

end FluentKotlin
