import FluentKotlin.Text.Blank
import FluentKotlin.Text.Segments
import Mathlib.Data.List.DropRight

/-! # Trimmed texts and their segments

Trimming takes nothing but white space and changes nothing the second time. Cutting a text loses
nothing but the separators, and texts without the separator that are joined by it are found again.
-/

namespace FluentKotlin.Text

theorem mem_dropBlank {c : Char} {cs : List Char} (h : c ∈ cs) (hb : isBlank c = false) :
    c ∈ dropBlank cs := by
  unfold dropBlank
  have ha : c ∈ cs.takeWhile isBlank ++ cs.dropWhile isBlank := by
    rw [List.takeWhile_append_dropWhile]
    exact h
  rcases List.mem_append.mp ha with ht | hd
  · rw [List.mem_takeWhile_imp ht] at hb
    cases hb
  · exact hd

theorem mem_trimChars {c : Char} {cs : List Char} (h : c ∈ cs) (hb : isBlank c = false) :
    c ∈ trimChars cs := by
  have hd := mem_dropBlank (List.mem_reverse.mpr (mem_dropBlank h hb)) hb
  exact List.mem_reverse.mpr hd

theorem mem_of_mem_trimChars {c : Char} {cs : List Char} (h : c ∈ trimChars cs) : c ∈ cs := by
  unfold trimChars dropBlank at h
  have hr := (List.dropWhile_sublist isBlank).mem (List.mem_reverse.mp h)
  exact (List.dropWhile_sublist isBlank).mem (List.mem_reverse.mp hr)

theorem trimChars_trimChars (cs : List Char) : trimChars (trimChars cs) = trimChars cs := by
  have trim_eq : ∀ ds, trimChars ds = (ds.dropWhile isBlank).rdropWhile isBlank := fun _ => rfl
  have hp : trimChars cs <+: cs.dropWhile isBlank := by
    rw [trim_eq]
    exact List.rdropWhile_prefix isBlank _
  have hs : (trimChars cs).dropWhile isBlank = trimChars cs := by
    cases ht : trimChars cs with
    | nil => rfl
    | cons c ds =>
      rw [ht] at hp
      obtain ⟨es, he⟩ := hp
      have hc : isBlank c = false := by
        have := List.head?_dropWhile_not isBlank cs
        rw [← he] at this
        simpa using this
      rw [List.dropWhile_cons_of_neg (by simp [hc])]
  rw [trim_eq (trimChars cs), hs, trim_eq cs, List.rdropWhile_idempotent]

@[simp] theorem trim_trim (s : String) : trim (trim s) = trim s := by
  unfold trim
  rw [String.toList_ofList, trimChars_trimChars]

theorem trim_eq_self {s : String} (h : ∀ c ∈ s.toList, isBlank c = false) : trim s = s := by
  have hd : ∀ cs : List Char, (∀ c ∈ cs, isBlank c = false) → dropBlank cs = cs := by
    intro cs hcs
    cases cs with
    | nil => rfl
    | cons c cs => exact List.dropWhile_cons_of_neg (by simp [hcs c List.mem_cons_self])
  unfold trim trimChars
  rw [hd _ h, hd _ (by simpa using h), List.reverse_reverse, String.ofList_toList]

theorem mem_intercalate {α : Type} {x c : α} {ls : List (List α)}
    (h : c ∈ [x].intercalate ls) : c = x ∨ ∃ l ∈ ls, c ∈ l := by
  induction ls with
  | nil => cases h
  | cons l ls ih =>
    cases ls with
    | nil =>
      rw [List.intercalate_singleton] at h
      exact Or.inr ⟨l, List.mem_singleton_self l, h⟩
    | cons k ks =>
      rw [List.intercalate_cons_cons] at h
      simp only [List.mem_append, List.mem_singleton] at h
      rcases h with (h | h) | h
      · exact Or.inr ⟨l, List.mem_cons_self, h⟩
      · exact Or.inl h
      · rcases ih h with h | ⟨m, hm, hc⟩
        · exact Or.inl h
        · exact Or.inr ⟨m, List.mem_cons_of_mem _ hm, hc⟩

theorem sublist_intercalate_of_mem {α : Type} {x : α} {l : List α} {ls : List (List α)}
    (h : l ∈ ls) : l.Sublist ([x].intercalate ls) := by
  induction ls with
  | nil => cases h
  | cons k ks ih =>
    cases ks with
    | nil =>
      rw [List.intercalate_singleton, List.mem_singleton.mp h]
    | cons j js =>
      rw [List.intercalate_cons_cons, List.append_assoc]
      rcases List.mem_cons.mp h with rfl | h
      · exact List.sublist_append_left _ _
      · exact (ih h).trans ((List.sublist_append_right _ _).trans (List.sublist_append_right _ _))

theorem mem_intercalate_of_mem {α : Type} {x c : α} {l : List α} {ls : List (List α)} (hl : l ∈ ls)
    (hc : c ∈ l) : c ∈ [x].intercalate ls := (sublist_intercalate_of_mem hl).mem hc

theorem exists_mem_segments {sep c : Char} {s : String} (h : c ∈ s.toList) (hc : c ≠ sep) :
    ∃ t ∈ segments sep s, c ∈ t.toList := by
  have hi : c ∈ [sep].intercalate (s.toList.splitOn sep) := by
    rw [List.intercalate_splitOn]
    exact h
  rcases mem_intercalate hi with h | ⟨l, hl, hm⟩
  · exact absurd h hc
  · exact ⟨String.ofList l, List.mem_map_of_mem hl, by simpa using hm⟩

theorem not_mem_of_mem_splitOn {α : Type} [BEq α] [LawfulBEq α] {x : α} {xs l : List α}
    (h : l ∈ xs.splitOn x) : x ∉ l := by
  induction xs generalizing l with
  | nil =>
    rw [List.splitOn_nil, List.mem_singleton] at h
    rw [h]
    exact List.not_mem_nil
  | cons y ys ih =>
    rw [List.splitOn_cons_eq_if_modifyHead] at h
    by_cases hy : (y == x) = true
    · rw [if_pos hy] at h
      rcases List.mem_cons.mp h with rfl | h
      · exact List.not_mem_nil
      · exact ih h
    · rw [if_neg hy] at h
      obtain ⟨k, ks, hk⟩ := List.exists_cons_of_ne_nil (List.splitOn_ne_nil x ys)
      rw [hk, List.modifyHead_cons] at h
      rcases List.mem_cons.mp h with rfl | h
      · rintro hx
        rcases List.mem_cons.mp hx with rfl | hx
        · exact hy BEq.rfl
        · exact ih (hk ▸ List.mem_cons_self) hx
      · exact ih (hk ▸ List.mem_cons_of_mem _ h)

variable {sep c : Char} {s t : String}

theorem not_mem_of_mem_segments (h : t ∈ segments sep s) : sep ∉ t.toList := by
  obtain ⟨l, hl, rfl⟩ := List.mem_map.mp h
  rw [String.toList_ofList]
  exact not_mem_of_mem_splitOn hl

theorem sublist_of_mem_segments (h : t ∈ segments sep s) : t.toList.Sublist s.toList := by
  obtain ⟨l, hl, rfl⟩ := List.mem_map.mp h
  have joined : [sep].intercalate (s.toList.splitOn sep) = s.toList := List.intercalate_splitOn sep
  rw [String.toList_ofList, ← joined]
  exact sublist_intercalate_of_mem hl

theorem mem_of_mem_segments (h : t ∈ segments sep s) (hc : c ∈ t.toList) : c ∈ s.toList :=
  (sublist_of_mem_segments h).mem hc

theorem segments_eq_singleton (h : sep ∉ s.toList) : segments sep s = [s] := by
  unfold segments
  rw [List.splitOn_eq_singleton h, List.map_singleton, String.ofList_toList]

theorem segments_intercalate {ls : List String} (h : ∀ s ∈ ls, sep ∉ s.toList) (hne : ls ≠ []) :
    segments sep (String.intercalate (String.singleton sep) ls) = ls := by
  unfold segments
  rw [String.toList_intercalate, String.toList_singleton, List.splitOn_intercalate sep]
  · simp
  · intro l hl
    obtain ⟨s, hs, rfl⟩ := List.mem_map.mp hl
    exact h s hs
  · simpa using hne

theorem segments_ne_nil (sep : Char) (s : String) : segments sep s ≠ [] := by
  simp [segments]

theorem intercalate_segments (sep : Char) (s : String) :
    String.intercalate (String.singleton sep) (segments sep s) = s := by
  refine String.toList_injective ?_
  have hid : String.toList ∘ String.ofList = id := funext fun _ => String.toList_ofList
  unfold segments
  rw [String.toList_intercalate, String.toList_singleton, List.map_map, hid, List.map_id,
    List.intercalate_splitOn]

theorem eq_of_segments_eq (h : segments sep s = segments sep t) : s = t := by
  rw [← intercalate_segments sep s, h, intercalate_segments]

theorem segments_append (sep : Char) (s t : String) :
    segments sep (s ++ String.singleton sep ++ t) = segments sep s ++ segments sep t := by
  unfold segments
  rw [String.toList_append, String.toList_append, String.toList_singleton, List.append_assoc,
    List.singleton_append, List.splitOn_append_cons_self, List.map_append]

section Dots

theorem lastSegment_eq_getLast (s : String) :
    lastSegment s = (segments '.' s).getLast (segments_ne_nil '.' s) := by
  unfold lastSegment
  rw [List.getLastD_eq_getLast?, List.getLast?_eq_some_getLast (segments_ne_nil '.' s),
    Option.getD_some]

theorem lastSegment_mem (s : String) : lastSegment s ∈ segments '.' s := by
  rw [lastSegment_eq_getLast]
  exact List.getLast_mem _

theorem not_mem_lastSegment (s : String) : '.' ∉ (lastSegment s).toList :=
  not_mem_of_mem_segments (lastSegment_mem s)

theorem lastSegment_of_undotted (h : '.' ∉ s.toList) : lastSegment s = s := by
  unfold lastSegment
  rw [segments_eq_singleton h]
  rfl

theorem segments_below (s t : String) :
    segments '.' (s ++ "." ++ t) = segments '.' s ++ segments '.' t := segments_append '.' s t

theorem lastSegment_below (s t : String) : lastSegment (s ++ "." ++ t) = lastSegment t := by
  have hs := congrArg List.getLast? (segments_below s t)
  rw [List.getLast?_append_of_ne_nil _ (segments_ne_nil '.' t)] at hs
  unfold lastSegment
  rw [List.getLastD_eq_getLast?, hs, List.getLastD_eq_getLast?]

end Dots

end FluentKotlin.Text
