import Mathlib.Data.List.Induction
import FluentKotlin.Report.Journal

/-! # Guides of the debug tree

A journal keeps a list of open depths and moves it with each debug line. What the cells in front of
a line show is a matter of the debug lines before it: a depth has a guide if the last line that is
not deeper is at this very depth and keeps its guide open. Other reports have no part in it.
-/

namespace FluentKotlin

/-- The depth of a debug line in the tree, with whether it keeps a guide open. -/
def Report.branch? : Report → Option (Int × Bool)
  | .debug tier branch _ => some (tier, branch)
  | .note _ => none
  | .info _ => none
  | .finding _ => none

namespace Journal

def branches (rs : List Report) : List (Int × Bool) := rs.filterMap Report.branch?

/-- Some line is not deeper than this depth, and the last such line is at it and keeps its guide
open. -/
def Guided (branches : List (Int × Bool)) (depth : Int) : Prop :=
  (branches.filter (·.1 ≤ depth)).getLast? = some (depth, true)

instance (branches : List (Int × Bool)) (depth : Int) : Decidable (Guided branches depth) :=
  inferInstanceAs (Decidable (_ = _))

/-- The text is the tree in front of a line at a depth after these debug lines. -/
structure Draws (branches : List (Int × Bool)) (tier : Int) (tree : String) : Prop where
  bare : tier ≤ 0 → tree = ""
  /-- The cells are for the depths from 1 up to the one above the line. -/
  cells : 0 < tier → ∃ cells : List String, tree = String.join cells ++ "|__ " ∧
    (cells.length : Int) = tier - 1 ∧
    ∀ (i : Nat) (h : i < cells.length),
      (cells[i] = "|  " ∧ Guided branches (i + 1)) ∨
      (cells[i] = "   " ∧ ¬ Guided branches (i + 1))

variable {rs : List Report} {j : Journal} {tier depth : Int} {branch : Bool} {message : String}

theorem not_guided_nil (depth : Int) : ¬ Guided [] depth := by
  simp [Guided]

theorem guided_concat {branches : List (Int × Bool)} :
    Guided (branches ++ [(tier, branch)]) depth ↔
      depth < tier ∧ Guided branches depth ∨ depth = tier ∧ branch = true := by
  rw [Guided, List.filter_append]
  by_cases hd : tier ≤ depth
  · -- The new line is the last of those that are not deeper.
    rw [List.filter_cons_of_pos (by simpa using hd), List.filter_nil, List.getLast?_concat]
    constructor
    · intro h
      cases h
      exact .inr ⟨rfl, rfl⟩
    · rintro (⟨hlt, -⟩ | ⟨rfl, rfl⟩)
      · omega
      · rfl
  · rw [List.filter_cons_of_neg (by simpa using hd), List.filter_nil, List.append_nil]
    constructor
    · intro hg
      exact .inl ⟨by omega, hg⟩
    · rintro (⟨-, hg⟩ | ⟨rfl, -⟩)
      · exact hg
      · omega

theorem mem_moveGuides {openTiers : List Int} :
    depth ∈ moveGuides openTiers tier branch ↔
      depth < tier ∧ depth ∈ openTiers ∨ depth = tier ∧ branch = true := by
  cases branch <;> simp [moveGuides, and_comm]

theorem debugEnabled_add (j : Journal) (r : Report) : (j.add r).debugEnabled = j.debugEnabled := by
  cases r with
  | debug tier branch message => simp only [add]; split <;> rfl
  | note message => simp only [add]; split <;> rfl
  | info message => rfl
  | finding f => rfl

theorem ofReports_concat (enabled : Bool) (rs : List Report) (r : Report) :
    ofReports enabled (rs ++ [r]) = (ofReports enabled rs).add r :=
  addAll_append _ rs [r]

@[simp] theorem debugEnabled_ofReports (enabled : Bool) (rs : List Report) :
    (ofReports enabled rs).debugEnabled = enabled := by
  induction rs using List.reverseRecOn with
  | nil => rfl
  | append_singleton rs r ih => rw [ofReports_concat, debugEnabled_add, ih]

theorem openTiers_add (hj : j.debugEnabled = true) (r : Report) :
    (j.add r).openTiers =
      match r.branch? with
      | some (tier, branch) => moveGuides j.openTiers tier branch
      | none => j.openTiers := by
  cases r with
  | debug tier branch message => simp only [add, if_pos hj, Report.branch?]
  | note message => simp only [add, if_pos hj, Report.branch?, write]
  | info message => rfl
  | finding f => rfl

/-- The open depths are those with a guide, by induction from the last report. -/
theorem mem_openTiers_ofReports (rs : List Report) (depth : Int) :
    depth ∈ (ofReports true rs).openTiers ↔ Guided (branches rs) depth := by
  induction rs using List.reverseRecOn with
  | nil => exact iff_of_false List.not_mem_nil (not_guided_nil depth)
  | append_singleton rs r ih =>
    rw [ofReports_concat, openTiers_add (debugEnabled_ofReports true rs), branches,
      List.filterMap_append]
    cases hr : r.branch? with
    | none => simpa [List.filterMap_cons, hr, branches] using ih
    | some b =>
      obtain ⟨tier, branch⟩ := b
      simp only [List.filterMap_cons, List.filterMap_nil, hr]
      rw [mem_moveGuides, guided_concat, ih, branches]

theorem draws_treeText (rs : List Report) (tier : Int) :
    Draws (branches rs) tier (treeText (ofReports true rs).openTiers tier) where
  bare ht := if_pos ht
  cells ht := by
    refine ⟨_, if_neg (by omega), ?_, ?_⟩
    · rw [List.length_map, List.length_range]
      omega
    · intro i hi
      rw [List.getElem_map, List.getElem_range, ← mem_openTiers_ofReports, cell]
      by_cases hm : ((i : Int) + 1) ∈ (ofReports true rs).openTiers
      · exact .inl ⟨if_pos (List.contains_iff_mem.mpr hm), hm⟩
      · exact .inr ⟨if_neg (mt List.contains_iff_mem.mp hm), hm⟩

/-- The debug lines so far leave no choice for the tree. -/
theorem Draws.unique {branches : List (Int × Bool)} {tree tree' : String}
    (h : Draws branches tier tree) (h' : Draws branches tier tree') : tree = tree' := by
  by_cases ht : tier ≤ 0
  · rw [h.bare ht, h'.bare ht]
  · obtain ⟨cells, rfl, hlen, hcells⟩ := h.cells (by omega)
    obtain ⟨cells', rfl, hlen', hcells'⟩ := h'.cells (by omega)
    congr 2
    apply List.ext_getElem (by omega)
    intro i hi hi'
    rcases hcells i hi with ⟨hc, hg⟩ | ⟨hc, hg⟩ <;>
      rcases hcells' i hi' with ⟨hc', hg'⟩ | ⟨hc', hg'⟩
    · rw [hc, hc']
    · exact absurd hg hg'
    · exact absurd hg' hg
    · rw [hc, hc']

theorem lines_debug (rs : List Report) (tier : Int) (branch : Bool) (message : String) :
    (ofReports true (rs ++ [.debug tier branch message])).lines =
      (ofReports true rs).lines ++
        [⟨.debug, treeText (ofReports true rs).openTiers tier ++ message⟩] := by
  rw [ofReports_concat, add, if_pos (debugEnabled_ofReports true rs)]
  rfl

/-- The tree in front of a debug line tells of the debug lines before it: it is the same after any
reports with these debug lines, whatever is reported in between. -/
theorem debug_line_drawn (rs : List Report) (tier : Int) (branch : Bool) (message : String) :
    ∃ tree : String, Draws (branches rs) tier tree ∧
      ∀ ss : List Report, branches ss = branches rs →
        (ofReports true (ss ++ [.debug tier branch message])).lines =
          (ofReports true ss).lines ++ [⟨.debug, tree ++ message⟩] := by
  refine ⟨_, draws_treeText rs tier, ?_⟩
  intro ss hss
  have hdrawn : Draws (branches rs) tier (treeText (ofReports true ss).openTiers tier) :=
    hss ▸ draws_treeText ss tier
  rw [lines_debug, hdrawn.unique (draws_treeText rs tier)]

/-- The guide at depth 2 is closed by the line at that depth that does not keep one open. -/
example :
    ((ofReports true [.debug 1 true "a", .debug 2 true "b", .info "c", .debug 3 true "d",
      .debug 2 false "e", .debug 4 false "f"]).lines.getLast?.map (·.text)) =
      some "|        |__ f" := by
  decide +kernel

end Journal

end FluentKotlin
