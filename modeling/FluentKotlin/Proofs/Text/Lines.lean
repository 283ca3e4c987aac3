import FluentKotlin.Proofs.Pointwise
import FluentKotlin.Proofs.Text.Segments
import FluentKotlin.Text.Lines

/-! # Indented texts

Indenting cuts a text at every line break and joins it with line feeds. Where the text has no other
breaks, nothing happens but that spaces come before its lines, and where it has others, they are
lost. A text is indented line by line, so what stands on lines of its own is indented apart.
-/

namespace FluentKotlin.Text

/-! ### Lines of a text that ends with a line feed -/

section LineChars

variable {c : Char} {cs ds line : List Char}

theorem lineChars_crlf (cs : List Char) : lineChars ('\r' :: '\n' :: cs) = [] :: lineChars cs := by
  rw [lineChars.eq_def]
  rfl

theorem lineChars_of_break (hb : isLineBreak c = true) (h : c = '\r' → cs.head? ≠ some '\n') :
    lineChars (c :: cs) = [] :: lineChars cs := by
  rw [lineChars.eq_def]
  split
  case h_1 => contradiction
  case h_2 he =>
    cases he
    exact absurd rfl (h rfl)
  case h_3 he =>
    cases he
    exact if_pos hb

theorem lineChars_feed (cs : List Char) : lineChars ('\n' :: cs) = [] :: lineChars cs :=
  lineChars_of_break rfl (fun h => absurd h (by decide))

theorem lineChars_of_not_break (hb : isLineBreak c = false) :
    lineChars (c :: cs) = consLine c (lineChars cs) := by
  rw [lineChars.eq_def]
  split
  case h_1 => contradiction
  case h_2 he =>
    cases he
    cases hb
  case h_3 he =>
    cases he
    exact if_neg (by simp [hb])

theorem consLine_append {ls : List (List Char)} (h : ls ≠ []) (c : Char) (ms : List (List Char)) :
    consLine c (ls ++ ms) = consLine c ls ++ ms := by
  cases ls with
  | nil => exact absurd rfl h
  | cons l ls => rfl

theorem consLine_eq_modifyHead {ls : List (List Char)} (h : ls ≠ []) (c : Char) :
    consLine c ls = ls.modifyHead (c :: ·) := by
  cases ls with
  | nil => exact absurd rfl h
  | cons l ls => rfl

theorem lineChars_append_feed_ne_nil (cs ds : List Char) : lineChars (cs ++ '\n' :: ds) ≠ [] :=
  lineChars_ne_nil (by simp)

theorem lineChars_append_feed (cs ds : List Char) :
    lineChars (cs ++ '\n' :: ds) = lineChars (cs ++ ['\n']) ++ lineChars ds := by
  fun_induction lineChars cs with
  | case1 =>
    rw [List.nil_append, List.nil_append, lineChars_feed, lineChars_feed]
    rfl
  | case2 cs ih =>
    simp only [List.cons_append]
    rw [lineChars_crlf, lineChars_crlf, ih, List.cons_append]
  | case3 c cs hne hb ih =>
    rw [List.cons_append, List.cons_append]
    cases cs with
    | nil =>
      by_cases hr : c = '\r'
      · subst hr
        exact (lineChars_crlf ds).trans (congrArg (· ++ lineChars ds) (lineChars_crlf [])).symm
      · rw [lineChars_of_break hb (absurd · hr), ih, lineChars_of_break hb (absurd · hr),
          List.cons_append]
    | cons d cs =>
      have hd : c = '\r' → d ≠ '\n' := by
        rintro rfl rfl
        exact hne cs rfl rfl
      have hrest : ∀ es, lineChars (c :: (d :: cs ++ es)) = [] :: lineChars (d :: cs ++ es) :=
        fun es => lineChars_of_break hb (by simpa using hd)
      rw [hrest, hrest, ih]
      rfl
  | case4 c cs _ hb ih =>
    have hb : isLineBreak c = false := by simpa using hb
    rw [List.cons_append, List.cons_append, lineChars_of_not_break hb, lineChars_of_not_break hb,
      ih, consLine_append (lineChars_append_feed_ne_nil cs [])]

theorem lineChars_eq_splitOn (h : ∀ c ∈ cs, isLineBreak c = true → c = '\n') :
    lineChars (cs ++ ['\n']) = cs.splitOn '\n' := by
  induction cs with
  | nil => rfl
  | cons c cs ih =>
    obtain ⟨hc, hcs⟩ := List.forall_mem_cons.mp h
    rw [List.cons_append, List.splitOn_cons_eq_if_modifyHead]
    by_cases hn : c = '\n'
    · subst hn
      rw [lineChars_feed, ih hcs]
      rfl
    · have hb : isLineBreak c = false := by simpa using mt hc hn
      rw [lineChars_of_not_break hb, ih hcs, if_neg (by simpa using hn),
        consLine_eq_modifyHead (List.splitOn_ne_nil _ _)]

end LineChars

/-! ### Indenting -/

def indentLines : List (List Char) → List (List Char)
  | [] => [indentation]
  | line :: lines => (indentation ++ line) :: lines.map indentLine

theorem indentChars_eq (cs : List Char) :
    indentChars cs = ['\n'].intercalate (indentLines (lineChars (cs ++ ['\n']))) := by
  unfold indentChars
  cases h : lineChars (cs ++ ['\n']) with
  | nil => exact absurd h (lineChars_append_feed_ne_nil cs [])
  | cons line lines => rfl

theorem mem_indentLine {c : Char} {line : List Char} (h : c ∈ indentLine line) :
    c = ' ' ∨ c ∈ line := by
  unfold indentLine at h
  split at h
  · cases h
  · exact (List.mem_append.mp h).imp (fun h => by simpa [indentation] using h) id

theorem isLineBreak_of_mem_indentLines {cs line : List Char}
    (h : line ∈ indentLines (lineChars cs)) : ∀ c ∈ line, isLineBreak c = false := by
  have hspace : ∀ c ∈ indentation, isLineBreak c = false := by
    intro c hc
    obtain rfl : c = ' ' := by simpa [indentation] using hc
    rfl
  cases hl : lineChars cs with
  | nil =>
    rw [hl, indentLines, List.mem_singleton] at h
    rw [h]
    exact hspace
  | cons first lines =>
    have hbreak : ∀ l ∈ first :: lines, ∀ c ∈ l, isLineBreak c = false := by
      rw [← hl]
      exact fun l hm => isLineBreak_of_mem_lineChars hm
    obtain ⟨hfirst, hlines⟩ := List.forall_mem_cons.mp hbreak
    rw [hl, indentLines] at h
    intro c hc
    rcases List.mem_cons.mp h with rfl | h
    · exact (List.mem_append.mp hc).elim (hspace c) (hfirst c)
    · obtain ⟨l, hm, rfl⟩ := List.mem_map.mp h
      rcases mem_indentLine hc with rfl | hc
      · rfl
      · exact hlines l hm c hc

theorem splitOn_indentChars (cs : List Char) :
    (indentChars cs).splitOn '\n' = indentLines (lineChars (cs ++ ['\n'])) := by
  rw [indentChars_eq, List.splitOn_intercalate]
  · intro l hl hn
    have hb := isLineBreak_of_mem_indentLines hl '\n' hn
    cases hb
  · unfold indentLines
    split <;> simp

/-- No break of the text is anything but a line feed. -/
def FeedsOnly (s : String) : Prop := ∀ c ∈ s.toList, isLineBreak c = true → c = '\n'

instance (s : String) : Decidable (FeedsOnly s) :=
  List.decidableBAll (fun c => isLineBreak c = true → c = '\n') s.toList

theorem feedsOnly_indent (s : String) : FeedsOnly (indent s) := by
  intro c hc hb
  rw [toList_indent, indentChars_eq] at hc
  rcases mem_intercalate hc with hc | ⟨line, hl, hc⟩
  · exact hc
  · rw [isLineBreak_of_mem_indentLines hl c hc] at hb
    cases hb

def spaces (n : ℕ) : List Char := List.replicate n ' '

theorem spaces_append (m n : ℕ) : spaces m ++ spaces n = spaces (m + n) :=
  List.replicate_append_replicate

/-- The other text has spaces before some of the lines, and nothing else is changed. -/
def Shifted (s t : String) : Prop :=
  List.Forall₂ (fun line moved => ∃ n, moved = spaces n ++ line)
    (s.toList.splitOn '\n') (t.toList.splitOn '\n')

section Shifted

variable {s t u : String}

theorem Shifted.refl (s : String) : Shifted s s :=
  List.forall₂_same.mpr fun _ _ => ⟨0, rfl⟩

theorem Shifted.trans (h : Shifted s t) (ht : Shifted t u) : Shifted s u := by
  refine (forall₂_comp h ht).imp ?_
  rintro line _ ⟨_, ⟨i, rfl⟩, j, rfl⟩
  exact ⟨j + i, by rw [← List.append_assoc, spaces_append]⟩

theorem Shifted.mem (h : Shifted s t) {c : Char} (hc : c ∈ s.toList) (hn : c ≠ '\n') :
    c ∈ t.toList := by
  have hs : ['\n'].intercalate (s.toList.splitOn '\n') = s.toList := List.intercalate_splitOn '\n'
  have ht : ['\n'].intercalate (t.toList.splitOn '\n') = t.toList := List.intercalate_splitOn '\n'
  rw [← hs] at hc
  obtain ⟨line, hl, hc⟩ := (mem_intercalate hc).resolve_left hn
  obtain ⟨moved, hm, n, rfl⟩ := exists_mem_right h hl
  rw [← ht]
  exact mem_intercalate_of_mem hm (List.mem_append_right _ hc)

theorem Shifted.feedsOnly (h : Shifted s t) (ht : FeedsOnly t) : FeedsOnly s := by
  intro c hc hb
  by_contra hn
  exact hn (ht c (h.mem hc hn) hb)

theorem shifted_indent (h : FeedsOnly s) : Shifted s (indent s) := by
  unfold Shifted
  rw [toList_indent, splitOn_indentChars, lineChars_eq_splitOn h]
  have hline : ∀ line, ∃ n, indentLine line = spaces n ++ line := by
    intro line
    cases line with
    | nil => exact ⟨0, rfl⟩
    | cons c cs => exact ⟨4, rfl⟩
  obtain ⟨first, lines, hl⟩ := List.exists_cons_of_ne_nil (List.splitOn_ne_nil '\n' s.toList)
  rw [hl, indentLines]
  refine .cons ⟨4, rfl⟩ ?_
  rw [List.forall₂_map_right_iff]
  exact List.forall₂_same.mpr fun line _ => hline line

end Shifted

def indentedBy : ℕ → String → String
  | 0, s => s
  | n + 1, s => indent (indentedBy n s)

theorem indentedBy_indent (n : ℕ) (s : String) : indentedBy n (indent s) = indentedBy (n + 1) s := by
  induction n with
  | zero => rfl
  | succ n ih => exact congrArg indent ih

theorem shifted_indentedBy {s : String} (h : FeedsOnly s) (n : ℕ) : Shifted s (indentedBy n s) := by
  induction n with
  | zero => exact Shifted.refl s
  | succ n ih =>
    refine ih.trans (shifted_indent ?_)
    cases n with
    | zero => exact h
    | succ n => exact feedsOnly_indent _

theorem indentChars_of_line {cs : List Char} (h : ∀ c ∈ cs, isLineBreak c = false) :
    indentChars cs = indentation ++ cs := by
  have hfeed : ∀ c ∈ cs, isLineBreak c = true → c = '\n' := by
    intro c hc hb
    rw [h c hc] at hb
    cases hb
  have hn : '\n' ∉ cs := by
    intro hn
    have hb := h _ hn
    cases hb
  rw [indentChars_eq, lineChars_eq_splitOn hfeed, List.splitOn_eq_singleton hn]
  exact List.intercalate_singleton

theorem toList_indentedBy_of_line {s : String} (h : ∀ c ∈ s.toList, isLineBreak c = false)
    (n : ℕ) : (indentedBy n s).toList = spaces (4 * n) ++ s.toList := by
  induction n with
  | zero => rfl
  | succ n ih =>
    have hline : ∀ c ∈ spaces (4 * n) ++ s.toList, isLineBreak c = false := by
      intro c hc
      rcases List.mem_append.mp hc with hc | hc
      · rw [List.eq_of_mem_replicate hc]
        rfl
      · exact h c hc
    have hfour : indentation = spaces 4 := rfl
    rw [indentedBy, toList_indent, ih, indentChars_of_line hline, ← List.append_assoc, hfour,
      spaces_append, Nat.mul_succ, Nat.add_comm 4]

/-- Indenting does nothing but put spaces before lines exactly where only line feeds end them. -/
theorem shifted_indentedBy_succ_iff {s : String} {n : ℕ} :
    Shifted s (indentedBy (n + 1) s) ↔ FeedsOnly s :=
  ⟨fun h => h.feedsOnly (feedsOnly_indent _), fun h => shifted_indentedBy h (n + 1)⟩

/-! ### Blocks of lines -/

/-- The text begins with a character of its first line. -/
def Opens (s : String) : Prop := ∃ c cs, s.toList = c :: cs ∧ isLineBreak c = false

theorem opens_indent (s : String) : Opens (indent s) := by
  unfold Opens
  rw [toList_indent, indentChars_eq]
  cases lineChars (s.toList ++ ['\n']) with
  | nil => exact ⟨' ', _, rfl, rfl⟩
  | cons line lines =>
    cases lines with
    | nil => exact ⟨' ', _, rfl, rfl⟩
    | cons => exact ⟨' ', _, rfl, rfl⟩

theorem Opens.indentedBy {s : String} (h : Opens s) (n : ℕ) : Opens (indentedBy n s) := by
  cases n with
  | zero => exact h
  | succ n => exact opens_indent _

def indentRest (s : String) : String :=
  String.ofList (['\n'].intercalate ((lineChars (s.toList ++ ['\n'])).map indentLine))

theorem intercalate_append {α : Type} {x : α} {ls ms : List (List α)} (hl : ls ≠ [])
    (hm : ms ≠ []) : [x].intercalate (ls ++ ms) = [x].intercalate ls ++ x :: [x].intercalate ms := by
  induction ls with
  | nil => exact absurd rfl hl
  | cons l ls ih =>
    rw [List.cons_append, List.intercalate_cons_of_ne_nil (by simp [hm])]
    by_cases hn : ls = []
    · subst hn
      simp
    · rw [ih hn, List.intercalate_cons_of_ne_nil hn]
      simp

theorem lineChars_feeds (s t : String) : lineChars ((s ++ "\n" ++ t).toList ++ ['\n']) =
    lineChars (s.toList ++ ['\n']) ++ lineChars (t.toList ++ ['\n']) := by
  rw [← lineChars_append_feed]
  simp

theorem indent_append_feed (s t : String) :
    indent (s ++ "\n" ++ t) = indent s ++ "\n" ++ indentRest t := by
  refine String.toList_injective ?_
  obtain ⟨line, lines, hl⟩ :=
    List.exists_cons_of_ne_nil (lineChars_append_feed_ne_nil s.toList [])
  have hne : (lineChars (t.toList ++ ['\n'])).map indentLine ≠ [] := by
    simpa using lineChars_append_feed_ne_nil t.toList []
  rw [toList_indent, indentChars_eq, lineChars_feeds, String.toList_append, String.toList_append,
    toList_indent, indentChars_eq, hl, List.cons_append, indentLines, indentLines,
    List.map_append, ← List.cons_append, intercalate_append (by simp) hne]
  simp [indentRest]

theorem indentRest_append_feed (s t : String) :
    indentRest (s ++ "\n" ++ t) = indentRest s ++ "\n" ++ indentRest t := by
  refine String.toList_injective ?_
  have hne : ∀ u : String, (lineChars (u.toList ++ ['\n'])).map indentLine ≠ [] := by
    intro u
    simpa using lineChars_append_feed_ne_nil u.toList []
  unfold indentRest
  rw [lineChars_feeds, List.map_append, intercalate_append (hne s) (hne t)]
  simp

theorem indentRest_of_opens {s : String} (h : Opens s) : indentRest s = indent s := by
  obtain ⟨c, cs, hs, hb⟩ := h
  refine String.toList_injective ?_
  have hl : ∃ line lines, lineChars (s.toList ++ ['\n']) = (c :: line) :: lines := by
    rw [hs, List.cons_append, lineChars_of_not_break hb]
    cases lineChars (cs ++ ['\n']) with
    | nil => exact ⟨_, _, rfl⟩
    | cons l ls => exact ⟨_, _, rfl⟩
  obtain ⟨line, lines, hl⟩ := hl
  rw [indentRest, String.toList_ofList, toList_indent, indentChars_eq, hl]
  rfl

/-- The block stands in the text, on lines of its own. -/
def Stands (block text : String) : Prop :=
  ∃ before after, text = before ++ "\n" ++ (block ++ "\n" ++ after)

theorem Stands.trans {s t u : String} (h : Stands s t) (ht : Stands t u) : Stands s u := by
  obtain ⟨before, after, rfl⟩ := h
  obtain ⟨first, last, rfl⟩ := ht
  exact ⟨first ++ "\n" ++ before, after ++ "\n" ++ last, by simp only [String.append_assoc]⟩

theorem Stands.indent {block text : String} (h : Stands block text) (ho : Opens block) :
    Stands (indent block) (indent text) := by
  obtain ⟨before, after, rfl⟩ := h
  refine ⟨Text.indent before, indentRest after, ?_⟩
  rw [indent_append_feed, indentRest_append_feed, indentRest_of_opens ho]

def stacked (blocks : List String) : String := String.join (blocks.map (· ++ "\n"))

theorem mem_stacked {blocks : List String} {b : String} {c : Char} (hb : b ∈ blocks)
    (hc : c ∈ b.toList) : c ∈ (stacked blocks).toList := by
  rw [stacked, String.toList_join, List.mem_flatMap]
  exact ⟨b ++ "\n", List.mem_map_of_mem hb, by simp [hc]⟩

theorem indentRest_stacked {blocks : List String} {foot : String} (h : ∀ b ∈ blocks, Opens b)
    (hf : Opens foot) :
    indentRest (stacked blocks ++ foot) = stacked (blocks.map indent) ++ indent foot := by
  unfold stacked
  induction blocks with
  | nil =>
    simp only [List.map_nil, String.join_nil, String.empty_append]
    exact indentRest_of_opens hf
  | cons b blocks ih =>
    obtain ⟨hb, hbs⟩ := List.forall_mem_cons.mp h
    simp only [List.map_cons, String.join_cons]
    rw [String.append_assoc, indentRest_append_feed, indentRest_of_opens hb, ih hbs,
      ← String.append_assoc]

theorem indentedBy_stacked {blocks : List String} {foot : String} (h : ∀ b ∈ blocks, Opens b)
    (hf : Opens foot) (head : String) (n : ℕ) :
    indentedBy n (head ++ "\n" ++ (stacked blocks ++ foot)) =
      indentedBy n head ++ "\n" ++
        (stacked (blocks.map (indentedBy n)) ++ indentedBy n foot) := by
  induction n with
  | zero =>
    have hid : blocks.map (indentedBy 0) = blocks := List.map_id blocks
    rw [hid]
    rfl
  | succ n ih =>
    have hopen : ∀ b ∈ blocks.map (indentedBy n), Opens b := by
      intro b hb
      obtain ⟨a, ha, rfl⟩ := List.mem_map.mp hb
      exact (h a ha).indentedBy n
    rw [indentedBy, ih, indent_append_feed, indentRest_stacked hopen (hf.indentedBy n),
      List.map_map]
    rfl

end FluentKotlin.Text
