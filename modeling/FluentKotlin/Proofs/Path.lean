import FluentKotlin.Path
import FluentKotlin.Proofs.Text.Segments

/-! # Steps of a path

A text without a slash that is neither empty nor a single dot is one step. Texts that are steps are
joined as they are, and no text leaves a slash in the names of its path. Paths are joined in any
grouping, and one that begins with a slash takes the place of all before it.
-/

namespace FluentKotlin

namespace Path

variable {s : String} {names : List String}

structure Step (s : String) : Prop where
  slashless : '/' ∉ s.toList
  isStep : isStep s = true

theorem Step.of_mem {c : Char} (hs : '/' ∉ s.toList) (hc : c ∈ s.toList) (hd : c ≠ '.') :
    Step s := by
  refine ⟨hs, ?_⟩
  have hne : s ≠ "" := by
    rintro rfl
    cases hc
  have hdot : s ≠ "." := by
    rintro rfl
    exact hd (List.mem_singleton.mp hc)
  simp [Path.isStep, hne, hdot]

theorem ofString_of_step (h : Step s) : ofString s = ⟨"", [s]⟩ := by
  have hr : rootOf s = "" := by
    have ht : s.toList.takeWhile (· == '/') = [] := by
      cases hs : s.toList with
      | nil => rfl
      | cons c cs =>
        have hc : c ≠ '/' := by
          rintro rfl
          exact h.slashless (hs ▸ List.mem_cons_self)
        rw [List.takeWhile_cons_of_neg (by simpa using hc)]
    unfold rootOf
    rw [ht]
    rfl
  unfold ofString
  rw [hr, Text.segments_eq_singleton h.slashless, List.filter_singleton, h.isStep]
  rfl

theorem foldl_join_steps (p : Path) (h : ∀ s ∈ names, Step s) :
    (names.map ofString).foldl join p = ⟨p.root, p.names ++ names⟩ := by
  induction names generalizing p with
  | nil => simp
  | cons s names ih =>
    obtain ⟨hs, hnames⟩ := List.forall_mem_cons.mp h
    rw [List.map_cons, List.foldl_cons, ofString_of_step hs, ih _ hnames]
    simp [join, isAbsolute]

def Slashless (p : Path) : Prop := ∀ s ∈ p.names, '/' ∉ s.toList

theorem slashless_ofString (text : String) : (ofString text).Slashless := by
  intro s hs
  exact Text.not_mem_of_mem_segments (List.mem_filter.mp hs).1

theorem Slashless.join {p q : Path} (hp : p.Slashless) (hq : q.Slashless) :
    (p.join q).Slashless := by
  unfold Path.join
  split
  · exact hq
  · intro s hs
    rcases List.mem_append.mp hs with hs | hs
    · exact hp s hs
    · exact hq s hs

theorem slashless_foldl_join {p : Path} {texts : List String} (hp : p.Slashless) :
    ((texts.map ofString).foldl Path.join p).Slashless := by
  induction texts generalizing p with
  | nil => exact hp
  | cons text texts ih => exact ih (hp.join (slashless_ofString text))

section Join

variable {p q r : Path} {ps : List Path}

/-- The text begins with a slash, and its path does not depend on what it is joined to. -/
def Rooted (s : String) : Prop := s.toList.head? = some '/'

instance : DecidablePred Rooted := fun s => inferInstanceAs (Decidable (s.toList.head? = some '/'))

theorem rootOf_eq_empty_iff : rootOf s = "" ↔ s.toList.takeWhile (· == '/') = [] := by
  unfold rootOf
  dsimp only
  by_cases h : (s.toList.takeWhile (· == '/')).length = 0
  · rw [if_pos h]
    exact iff_of_true rfl (List.length_eq_zero_iff.mp h)
  · rw [if_neg h]
    refine iff_of_false ?_ fun he => h (List.length_eq_zero_iff.mpr he)
    split <;> decide

theorem isAbsolute_ofString_iff : (ofString s).isAbsolute = true ↔ Rooted s := by
  have hr : (ofString s).isAbsolute = true ↔ rootOf s ≠ "" := bne_iff_ne
  rw [hr, Ne, rootOf_eq_empty_iff, Rooted]
  cases s.toList with
  | nil => simp
  | cons c cs => by_cases hc : c = '/' <;> simp [hc]

theorem join_of_isAbsolute (h : q.isAbsolute = true) : p.join q = q := if_pos h

theorem join_of_relative (h : q.isAbsolute = false) : p.join q = ⟨p.root, p.names ++ q.names⟩ := by
  unfold join
  rw [h]
  rfl

theorem isAbsolute_join : (p.join q).isAbsolute = (p.isAbsolute || q.isAbsolute) := by
  cases hq : q.isAbsolute with
  | true => rw [join_of_isAbsolute hq, hq, Bool.or_true]
  | false =>
    rw [join_of_relative hq, Bool.or_false]
    rfl

theorem join_assoc (p q r : Path) : (p.join q).join r = p.join (q.join r) := by
  cases hr : r.isAbsolute with
  | true => rw [join_of_isAbsolute hr, join_of_isAbsolute hr, join_of_isAbsolute hr]
  | false =>
    have hqr := isAbsolute_join (p := q) (q := r)
    rw [hr, Bool.or_false] at hqr
    rw [join_of_relative hr, join_of_relative hr] at *
    cases hq : q.isAbsolute with
    | true => rw [join_of_isAbsolute hq, join_of_isAbsolute (hqr.trans hq)]
    | false => rw [join_of_relative hq, join_of_relative (hqr.trans hq), List.append_assoc]

@[simp] theorem join_empty (p : Path) : p.join {} = p := by
  rw [join_of_relative rfl, List.append_nil]

theorem foldl_join (p : Path) (ps : List Path) : ps.foldl join p = p.join (joinAll ps) := by
  induction ps generalizing p with
  | nil => exact (join_empty p).symm
  | cons q qs ih =>
    have hall : joinAll (q :: qs) = (join {} q).join (joinAll qs) := ih (join {} q)
    rw [List.foldl_cons, ih, hall, ← join_assoc, ← join_assoc, join_empty]

theorem joinAll_cons (q : Path) (qs : List Path) :
    joinAll (q :: qs) = (join {} q).join (joinAll qs) := foldl_join _ qs

theorem isAbsolute_joinAll : (joinAll ps).isAbsolute = ps.any (·.isAbsolute) := by
  induction ps with
  | nil => rfl
  | cons q qs ih => rw [joinAll_cons, isAbsolute_join, isAbsolute_join, ih]; rfl

theorem mem_names_join (h : s ∈ (p.join q).names) : s ∈ p.names ∨ s ∈ q.names := by
  unfold join at h
  split at h
  · exact .inr h
  · exact List.mem_append.mp h

theorem exists_of_mem_names_joinAll (h : s ∈ (joinAll ps).names) : ∃ p ∈ ps, s ∈ p.names := by
  induction ps with
  | nil => cases h
  | cons q qs ih =>
    rw [joinAll_cons] at h
    rcases mem_names_join h with h | h
    · rcases mem_names_join h with h | h
      · cases h
      · exact ⟨q, List.mem_cons_self, h⟩
    · obtain ⟨p, hp, hs⟩ := ih h
      exact ⟨p, List.mem_cons_of_mem _ hp, hs⟩

end Join

end Path

end FluentKotlin
