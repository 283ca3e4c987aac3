import FluentKotlin.Proofs.Kotlin.SimpleNames
import Mathlib.Data.List.Lex
import Mathlib.Data.List.Sort
import Mathlib.Data.Prod.Lex
import Mathlib.Data.String.Basic

/-! # The order of imports

Imports are put in a strict order, so an ordered list of imports is told by its members. What a file
imports does not depend on the order in which its classes are referred to.
-/

namespace FluentKotlin

def Text.rank (s : String) : List Nat ×ₗ String := toLex (Text.codesOf s, s)

theorem Text.before_iff {s t : String} : Text.before s t = true ↔ Text.rank s < Text.rank t := by
  unfold before rank
  rw [Prod.Lex.toLex_lt_toLex]
  simp

theorem Text.rank_injective : Function.Injective Text.rank := fun _ _ h => congrArg (·.2) h

namespace Import

variable {is js : List Import}

def rank (i : Import) : (List Nat ×ₗ String) ×ₗ (List Nat ×ₗ String) :=
  toLex (Text.rank i.package, Text.rank i.name)

theorem before_iff {i j : Import} : i.before j = true ↔ i.rank < j.rank := by
  unfold before rank
  rw [Prod.Lex.toLex_lt_toLex]
  simp [Text.before_iff, Text.rank_injective.eq_iff]

theorem rank_injective : Function.Injective rank := by
  intro i j h
  obtain ⟨p, n⟩ := i
  obtain ⟨q, m⟩ := j
  have hp : Text.rank p = Text.rank q := congrArg (·.1) h
  have hn : Text.rank n = Text.rank m := congrArg (·.2) h
  rw [Text.rank_injective hp, Text.rank_injective hn]

theorem pairwise_insert (i : Import) (h : is.Pairwise (·.rank < ·.rank)) :
    (insert i is).Pairwise (·.rank < ·.rank) := by
  induction is with
  | nil => exact List.pairwise_singleton _ _
  | cons j js ih =>
    obtain ⟨hj, hjs⟩ := List.pairwise_cons.mp h
    unfold insert
    by_cases hb : i.before j = true
    · have hij : i.rank < j.rank := before_iff.mp hb
      rw [if_pos hb]
      refine List.pairwise_cons.mpr ⟨?_, h⟩
      exact List.forall_mem_cons.mpr ⟨hij, fun k hk => hij.trans (hj k hk)⟩
    · rw [if_neg hb]
      by_cases he : i = j
      · rwa [if_pos he]
      · have hji : j.rank < i.rank := by
          refine lt_of_le_of_ne (not_lt.mp fun hlt => hb (before_iff.mpr hlt)) ?_
          exact fun hr => he (rank_injective hr).symm
        rw [if_neg he]
        refine List.pairwise_cons.mpr ⟨?_, ih hjs⟩
        intro k hk
        rcases mem_insert.mp hk with rfl | hk
        · exact hji
        · exact hj k hk

theorem pairwise_ordered (is : List Import) : (ordered is).Pairwise (·.rank < ·.rank) := by
  induction is with
  | nil => exact .nil
  | cons i is ih => exact pairwise_insert i ih

/-- An ordered list of imports is told by its members. -/
theorem ordered_congr (h : ∀ i, i ∈ is ↔ i ∈ js) : ordered is = ordered js := by
  have hm : ∀ i, i ∈ ordered is ↔ i ∈ ordered js := by
    intro i
    rw [mem_ordered, mem_ordered, h]
  have hirrefl : Std.Irrefl fun i j : Import => i.rank < j.rank := ⟨fun _ => lt_irrefl _⟩
  have hantisymm : Std.Antisymm fun i j : Import => i.rank < j.rank :=
    ⟨fun _ _ hij hji => absurd hij hji.asymm⟩
  exact (pairwise_ordered is).eq_of_mem_iff (pairwise_ordered js) hm

theorem conflict?_congr {package : String} {names others : List String}
    (h : ∀ s, s ∈ names ↔ s ∈ others) (seen : List Import) (i : Import) :
    conflict? package names seen i = conflict? package others seen i := by
  have hc : names.contains i.name = others.contains i.name := by
    rw [Bool.eq_iff_iff, List.contains_iff_mem, List.contains_iff_mem, h]
  unfold conflict?
  rw [hc]

theorem firstConflict?_congr {package : String} {names others : List String}
    (h : ∀ s, s ∈ names ↔ s ∈ others) (seen is : List Import) :
    firstConflict? package names seen is = firstConflict? package others seen is := by
  induction is generalizing seen with
  | nil => rfl
  | cons i is ih =>
    unfold firstConflict?
    rw [conflict?_congr h, ih]

/-- The imports of a file, or their first conflict, do not depend on the order of what it asks for
and of its references. -/
theorem compute_congr {wanted asked : List Import} {references others : List ClassName}
    (package : String) (hw : ∀ i, i ∈ wanted ↔ i ∈ asked)
    (h : ∀ c, c ∈ references ↔ c ∈ others) :
    compute package wanted references = compute package asked others := by
  have hfound : ordered (wanted ++ foreign package references) =
      ordered (asked ++ foreign package others) := by
    refine ordered_congr fun i => ?_
    simp only [foreign, List.mem_append, List.mem_map, List.mem_filter, h, hw]
  have hlocal : ∀ s, s ∈ localNames package references ↔ s ∈ localNames package others := by
    intro s
    simp only [localNames, List.mem_map, List.mem_filter, h]
  unfold compute
  simp only [hfound, firstConflict?_congr hlocal]

end Import

end FluentKotlin
