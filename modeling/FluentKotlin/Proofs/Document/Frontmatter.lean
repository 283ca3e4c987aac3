import FluentKotlin.Proofs.Document.Unexplained

/-! # Documents between two lines of dashes

What stands between the lines is read like a document of its own, up to its last line feed. The
first line behind the opening one never closes, so that nothing at all between them is not found as
such. Faults of the notation are explained outside of the dashes and not between them. -/

namespace FluentKotlin

/-! ### Outcomes -/

section Outcomes

variable {α : Type} {x y z : Describing α}

def IsExplained (x : Describing α) : Prop := ∃ e, x = .error e ∧ e.isExplained = true

/-- Both readings have the same result, or both end with a fault that says what is wrong. -/
def SameOutcome (x y : Describing α) : Prop :=
  (∃ a, x = .ok a ∧ y = .ok a) ∨ IsExplained x ∧ IsExplained y

theorem SameOutcome.not_escapes (h : SameOutcome x y) : ¬ Escapes x := by
  rw [not_escapes_iff]
  rcases h with ⟨a, h, -⟩ | ⟨h, -⟩
  · exact Or.inl ⟨a, h⟩
  · exact Or.inr h

theorem SameOutcome.symm (h : SameOutcome x y) : SameOutcome y x := by
  rcases h with ⟨a, hx, hy⟩ | ⟨hx, hy⟩
  · exact Or.inl ⟨a, hy, hx⟩
  · exact Or.inr ⟨hy, hx⟩

theorem SameOutcome.trans (h : SameOutcome x y) (h' : SameOutcome y z) : SameOutcome x z := by
  rcases h with ⟨a, hx, hy⟩ | ⟨hx, e, hy, -⟩
  · rcases h' with ⟨b, hb, hz⟩ | ⟨⟨e, he, -⟩, -⟩
    · cases hy.symm.trans hb
      exact Or.inl ⟨a, hx, hz⟩
    · cases hy.symm.trans he
  · rcases h' with ⟨b, hb, -⟩ | ⟨-, hz⟩
    · cases hy.symm.trans hb
    · exact Or.inr ⟨hx, hz⟩

end Outcomes

namespace Document

/-! ### The line that closes -/

section Closing

variable {l cs : List Char} {first line : String} {lines : List String}

theorem closingLine_eq : closingLine = '\n' :: openingLine := by decide

theorem openingLine_prefix_iff (h : '\n' ∉ l) : openingLine <+: l ++ '\n' :: cs ↔
    l = "---".toList := by
  have hd : '\n' ∉ "---".toList := by decide
  have ho : openingLine = "---".toList ++ ['\n'] := by decide
  constructor
  · rintro ⟨rest, hr⟩
    have hs := congrArg (List.splitOn '\n') hr
    rw [ho, List.append_assoc, List.singleton_append, List.splitOn_append_cons_self,
      List.splitOn_append_cons_self, List.splitOn_eq_singleton h, List.splitOn_eq_singleton hd] at hs
    exact (List.cons.inj hs).1.symm
  · rintro rfl
    exact ⟨cs, by rw [ho, List.append_assoc, List.singleton_append]⟩

theorem not_openingLine_prefix_of_unbroken (h : '\n' ∉ l) : ¬ openingLine <+: l := by
  intro hp
  exact h (hp.subset (by decide))

theorem beforeClosing_append (h : '\n' ∉ l) (cs : List Char) :
    beforeClosing (l ++ cs) = (beforeClosing cs).map (l ++ ·) := by
  induction l with
  | nil => simp
  | cons c l ih =>
    obtain ⟨hc, hl⟩ := not_or.mp (List.mem_cons.not.mp h)
    have hp : ¬ closingLine.isPrefixOf (c :: (l ++ cs)) = true := by
      rw [closingLine_eq, List.isPrefixOf_iff_prefix, List.cons_prefix_cons]
      exact fun h => hc h.1
    rw [List.cons_append, beforeClosing, if_neg hp, ih hl, Option.map_map]
    rfl

theorem closingLine_prefix_iff : closingLine.isPrefixOf ('\n' :: cs) = true ↔
    openingLine <+: cs := by
  rw [closingLine_eq, List.isPrefixOf_iff_prefix, List.prefix_cons_inj]

theorem beforeClosing_feed_of_opening (h : openingLine <+: cs) :
    beforeClosing ('\n' :: cs) = some [] := by
  rw [beforeClosing, closingLine_prefix_iff.mpr h]
  rfl

theorem beforeClosing_feed_of_not_opening (h : ¬ openingLine <+: cs) :
    beforeClosing ('\n' :: cs) = (beforeClosing cs).map ('\n' :: ·) := by
  rw [beforeClosing, if_neg (closingLine_prefix_iff.not.mpr h)]

/-- The lines before the first one of dashes that has an end. -/
def linesBeforeClosing : List String → Option (List String)
  | line :: next :: lines =>
    if line = "---" then some [] else (linesBeforeClosing (next :: lines)).map (line :: ·)
  | _ => none

theorem linesBeforeClosing_eq_some {before : List String} : linesBeforeClosing lines = some before ↔
    ∃ after, lines = before ++ "---" :: after ∧ after ≠ [] ∧ "---" ∉ before := by
  fun_induction linesBeforeClosing lines generalizing before with
  | case1 next lines =>
    constructor
    · intro h
      cases h
      exact ⟨next :: lines, rfl, List.cons_ne_nil _ _, List.not_mem_nil⟩
    · rintro ⟨after, h, -, hbefore⟩
      cases before with
      | nil => rfl
      | cons line before =>
        obtain ⟨rfl, -⟩ := List.cons.inj h
        exact absurd List.mem_cons_self hbefore
  | case2 line next lines hne ih =>
    rw [Option.map_eq_some_iff]
    constructor
    · rintro ⟨before, h, rfl⟩
      obtain ⟨after, he, hafter, hbefore⟩ := ih.mp h
      exact ⟨after, by rw [he]; rfl, hafter, List.not_mem_cons_of_ne_of_not_mem (Ne.symm hne) hbefore⟩
    · rintro ⟨after, h, hafter, hbefore⟩
      cases before with
      | nil =>
        cases h
        exact absurd rfl hne
      | cons first before =>
        obtain ⟨rfl, hrest⟩ := List.cons.inj h
        exact ⟨before, ih.mpr ⟨after, hrest, hafter, List.not_mem_of_not_mem_cons hbefore⟩, rfl⟩
  | case3 lines hshort =>
    refine iff_of_false nofun ?_
    rintro ⟨after, rfl, hafter, -⟩
    obtain ⟨next, after, rfl⟩ := List.exists_cons_of_ne_nil hafter
    cases before with
    | nil => exact hshort _ _ _ rfl
    | cons line before =>
      cases before with
      | nil => exact hshort _ _ _ rfl
      | cons => exact hshort _ _ _ rfl

theorem toList_intercalate_cons_cons (first line : String) (lines : List String) :
    (String.intercalate "\n" (first :: line :: lines)).toList =
      first.toList ++ '\n' :: (String.intercalate "\n" (line :: lines)).toList := by
  simp [String.toList_intercalate]

/-- The line that closes is looked for behind the first line. -/
theorem beforeClosing_intercalate (hf : '\n' ∉ first.toList)
    (hl : ∀ line ∈ lines, '\n' ∉ line.toList) :
    beforeClosing (String.intercalate "\n" (first :: lines)).toList =
      (linesBeforeClosing lines).map fun before =>
        (String.intercalate "\n" (first :: before)).toList := by
  fun_induction linesBeforeClosing lines generalizing first with
  | case1 next lines =>
    have hp : openingLine <+: (String.intercalate "\n" ("---" :: next :: lines)).toList := by
      rw [toList_intercalate_cons_cons, openingLine_prefix_iff (by decide)]
    rw [toList_intercalate_cons_cons, beforeClosing_append hf, beforeClosing_feed_of_opening hp]
    simp
  | case2 line next lines hne ih =>
    obtain ⟨hline, hlines⟩ := List.forall_mem_cons.mp hl
    have hp : ¬ openingLine <+: (String.intercalate "\n" (line :: next :: lines)).toList := by
      rw [toList_intercalate_cons_cons, openingLine_prefix_iff hline]
      exact fun h => hne (String.toList_injective h)
    rw [toList_intercalate_cons_cons, beforeClosing_append hf, beforeClosing_feed_of_not_opening hp,
      ih hline hlines, Option.map_map, Option.map_map, Option.map_map]
    refine congrArg (Option.map · _) (funext fun before => ?_)
    exact (toList_intercalate_cons_cons first line before).symm
  | case3 lines hshort =>
    have hnone : beforeClosing first.toList = none := by
      simpa [beforeClosing] using beforeClosing_append hf []
    match lines with
    | [] => simpa using hnone
    | [line] =>
      have hline := hl line (List.mem_singleton_self line)
      have hlast : beforeClosing line.toList = none := by
        simpa [beforeClosing] using beforeClosing_append hline []
      rw [toList_intercalate_cons_cons, beforeClosing_append hf, String.intercalate_singleton,
        beforeClosing_feed_of_not_opening (not_openingLine_prefix_of_unbroken hline), hlast]
      rfl
    | line :: next :: lines => exact absurd rfl (hshort line next lines)

theorem beforeClosing_eq_some {text part : String} :
    beforeClosing text.toList = some part.toList ↔ ∃ first lines after,
      Text.segments '\n' text = first :: (lines ++ "---" :: after) ∧ after ≠ [] ∧ "---" ∉ lines ∧
      part = String.intercalate "\n" (first :: lines) := by
  obtain ⟨first, lines, hs⟩ := List.exists_cons_of_ne_nil (Text.segments_ne_nil '\n' text)
  have hmem : ∀ line ∈ first :: lines, '\n' ∉ line.toList := by
    intro line hline
    exact Text.not_mem_of_mem_segments (hs ▸ hline)
  obtain ⟨hf, hl⟩ := List.forall_mem_cons.mp hmem
  have htext : text = String.intercalate "\n" (first :: lines) := by
    rw [← hs]
    exact (Text.intercalate_segments '\n' text).symm
  rw [hs]
  conv_lhs => rw [htext]
  rw [beforeClosing_intercalate hf hl, Option.map_eq_some_iff]
  simp only [linesBeforeClosing_eq_some]
  constructor
  · rintro ⟨before, ⟨after, rfl, hafter, hbefore⟩, hp⟩
    exact ⟨first, before, after, rfl, hafter, hbefore, String.toList_injective hp.symm⟩
  · rintro ⟨_, before, after, h, hafter, hbefore, rfl⟩
    obtain ⟨rfl, rfl⟩ := List.cons.inj h
    exact ⟨before, ⟨after, rfl, hafter, hbefore⟩, rfl⟩

end Closing

/-! ### Texts between lines of dashes -/

/-- The text between two lines of dashes, before some other text. -/
def framed (t rest : String) : String := "---\n" ++ (t ++ ("---\n" ++ rest))

/-- The text is empty or its last line has an end, and none of its lines is one of dashes. -/
structure Framable (t : String) : Prop where
  ended : t = "" ∨ ∃ body, t = body ++ "\n"
  undashed : "---" ∉ Text.segments '\n' t

section Framed

variable {t body : String}

theorem segments_dashes (rest : String) :
    Text.segments '\n' ("---\n" ++ rest) = "---" :: Text.segments '\n' rest :=
  Text.segments_append '\n' "---" rest

theorem segments_body (body rest : String) :
    Text.segments '\n' (body ++ "\n" ++ rest) =
      Text.segments '\n' body ++ Text.segments '\n' rest :=
  Text.segments_append '\n' body rest

theorem afterOpening?_dashes (after : String) :
    afterOpening? ("---\n" ++ after) = some after.toList := by
  have hp : Text.startsWith "---\n" ("---\n" ++ after) = true := by
    rw [Text.startsWith_iff, String.toList_append]
    exact List.prefix_append _ _
  rw [afterOpening?, if_pos hp, String.toList_append]
  exact congrArg some (List.drop_left' rfl)

theorem afterOpening?_of_undashed (h : "---" ∉ Text.segments '\n' t) : afterOpening? t = none := by
  refine if_neg ?_
  rw [Text.startsWith_iff]
  rintro ⟨after, he⟩
  have ht : t = "---\n" ++ String.ofList after := by
    refine String.toList_injective ?_
    rw [← he, String.toList_append]
    exact congrArg _ String.toList_ofList.symm
  rw [ht, segments_dashes] at h
  exact h List.mem_cons_self

theorem ofText_framed (t rest : String) :
    ofText (framed t rest) = sectionsOfFrontmatter (t ++ ("---\n" ++ rest)).toList >>= ofEntries := by
  unfold ofText sections framed
  rw [afterOpening?_dashes]

/-- A text whose last line has an end is found again but for that end, whatever follows. -/
theorem beforeClosing_body (h : "---" ∉ Text.segments '\n' (body ++ "\n")) (rest : String) :
    beforeClosing (body ++ "\n" ++ ("---\n" ++ rest)).toList = some body.toList := by
  have hb : "---" ∉ Text.segments '\n' body := by
    intro hm
    have hs := segments_body body ""
    rw [String.append_empty] at hs
    rw [hs] at h
    exact h (List.mem_append_left _ hm)
  obtain ⟨first, lines, hs⟩ := List.exists_cons_of_ne_nil (Text.segments_ne_nil '\n' body)
  rw [beforeClosing_eq_some]
  refine ⟨first, lines, Text.segments '\n' rest, ?_, Text.segments_ne_nil _ _, ?_, ?_⟩
  · rw [segments_body, segments_dashes, hs, List.cons_append]
  · rw [hs] at hb
    exact List.not_mem_of_not_mem_cons hb
  · rw [← hs]
    exact (Text.intercalate_segments '\n' body).symm

theorem sectionsOr_bind (fault : DocumentError) (v : Value) :
    (sectionsOr fault v >>= ofEntries) = ofValue v ∨
      (sectionsOr fault v >>= ofEntries) = .error fault ∧ ofValue v = .error .shape := by
  unfold ofValue sectionsOr
  split
  · exact Or.inl rfl
  · split
    · exact Or.inl rfl
    · exact Or.inr ⟨rfl, rfl⟩

theorem not_sameOutcome_of_escapes {α : Type} {x y : Describing α} (h : Escapes x) :
    ¬ SameOutcome x y := fun hs => hs.not_escapes h

theorem sameOutcome_frontmatterShape {v : Value} {y : Describing Document} :
    SameOutcome (sectionsOr .frontmatterShape v >>= ofEntries) y ↔ SameOutcome (ofValue v) y := by
  rcases sectionsOr_bind .frontmatterShape v with h | ⟨h, hv⟩
  · rw [h]
  · have he : SameOutcome (sectionsOr .frontmatterShape v >>= ofEntries) (ofValue v) :=
      Or.inr ⟨⟨_, h, rfl⟩, _, hv, rfl⟩
    exact ⟨he.symm.trans, he.trans⟩

/-- What stands between the dashes has the outcome of its value. Where the loader finds a flaw in
it, the outcome is that of no other text. -/
theorem sameOutcome_sectionsOfFrontmatter {after : List Char} {y : Describing Document} :
    SameOutcome (sectionsOfFrontmatter after >>= ofEntries) y ↔
      (∃ part v, beforeClosing after = some part.toList ∧ Yaml.read part = .ok v ∧
        SameOutcome (ofValue v) y) ∨
      beforeClosing after = none ∧ IsExplained y := by
  unfold sectionsOfFrontmatter
  cases hb : beforeClosing after with
  | none =>
    constructor
    · rintro (⟨doc, h, -⟩ | ⟨-, h⟩)
      · cases h
      · exact Or.inr ⟨rfl, h⟩
    · rintro (⟨part, v, h, -⟩ | ⟨-, h⟩)
      · cases h
      · exact Or.inr ⟨⟨_, rfl, rfl⟩, h⟩
  | some cs =>
    obtain ⟨part, rfl⟩ : ∃ part : String, cs = part.toList := ⟨_, String.toList_ofList.symm⟩
    dsimp only
    rw [String.ofList_toList, or_iff_left nofun]
    cases hr : Yaml.read part with
    | ok v =>
      have hs : sectionsOfPart .malformedFrontmatter .frontmatterShape part =
          sectionsOr .frontmatterShape v := by
        unfold sectionsOfPart
        rw [hr]
      rw [hs, sameOutcome_frontmatterShape]
      constructor
      · exact fun h => ⟨part, v, rfl, hr, h⟩
      · rintro ⟨_, _, hp, hv, h⟩
        cases String.toList_injective (Option.some.inj hp)
        cases hr.symm.trans hv
        exact h
    | error flaw =>
      have hs : Escapes (sectionsOfPart .malformedFrontmatter .frontmatterShape part >>=
          ofEntries) :=
        escapes_bind.mpr (Or.inl ((escapes_sectionsOfPart rfl).mpr ⟨flaw, hr, Or.inr rfl⟩))
      refine iff_of_false (not_sameOutcome_of_escapes hs) ?_
      rintro ⟨_, _, hp, hv, -⟩
      cases String.toList_injective (Option.some.inj hp)
      cases hr.symm.trans hv

theorem sameOutcome_ok {α : Type} {x : Describing α} {a : α} :
    SameOutcome x (.ok a) ↔ x = .ok a := by
  constructor
  · rintro (⟨b, h, hb⟩ | ⟨-, e, he, -⟩)
    · cases hb
      exact h
    · cases he
  · exact fun h => Or.inl ⟨a, h, rfl⟩

def isBlank (doc : Document) : Bool :=
  doc.options.isEmpty && doc.transforms.isEmpty && doc.domains.isEmpty

theorem eq_ok_blank {x : Describing Document} (h : yields x isBlank = true) : x = .ok {} := by
  obtain ⟨⟨options, transforms, domains⟩, rfl, hb⟩ := exists_of_yields h
  simp only [isBlank, Bool.and_eq_true, List.isEmpty_iff] at hb
  obtain ⟨⟨rfl, rfl⟩, rfl⟩ := hb
  rfl

theorem ofText_empty : ofText "" = .ok {} := eq_ok_blank (by decide +kernel)

theorem ofText_of_read {t : String} {v : Value} (ha : afterOpening? t = none)
    (hr : Yaml.read t = .ok v) : ofText t = ofValue v := by
  unfold ofText sections sectionsOfPart
  rw [ha, hr]
  rfl

theorem ofText_framed_eq_ok {v : Value} {doc : Document}
    (h : "---" ∉ Text.segments '\n' (body ++ "\n")) (hv : Yaml.read body = .ok v)
    (rest : String) : ofText (framed (body ++ "\n") rest) = .ok doc ↔ ofValue v = .ok doc := by
  have hs : ofText (framed (body ++ "\n") rest) = sectionsOr .frontmatterShape v >>= ofEntries := by
    rw [ofText_framed, sectionsOfFrontmatter, beforeClosing_body h]
    unfold sectionsOfPart
    dsimp only
    rw [String.ofList_toList, hv]
  rw [hs]
  rcases sectionsOr_bind .frontmatterShape v with h | ⟨h, hv⟩
  · rw [h]
  · rw [h, hv]
    exact iff_of_false nofun nofun

theorem sameOutcome_framed_body {y : Describing Document}
    (h : "---" ∉ Text.segments '\n' (body ++ "\n")) (rest : String) :
    SameOutcome (ofText (framed (body ++ "\n") rest)) y ↔
      ∃ v, Yaml.read body = .ok v ∧ SameOutcome (ofValue v) y := by
  rw [ofText_framed, sameOutcome_sectionsOfFrontmatter, beforeClosing_body h]
  constructor
  · rintro (⟨part, v, hp, hv, hs⟩ | ⟨hnone, -⟩)
    · cases String.toList_injective (Option.some.inj hp)
      exact ⟨v, hv, hs⟩
    · cases hnone
  · rintro ⟨v, hv, hs⟩
    exact Or.inl ⟨body, v, rfl, hv, hs⟩

theorem sameOutcome_framed_empty {doc : Document} (rest : String) :
    SameOutcome (ofText (framed "" rest)) (.ok doc) ↔
      ∃ lines after v, Text.segments '\n' rest = lines ++ "---" :: after ∧ after ≠ [] ∧
        "---" ∉ lines ∧ Yaml.read (String.intercalate "\n" ("---" :: lines)) = .ok v ∧
        ofValue v = .ok doc := by
  rw [ofText_framed, String.empty_append, sameOutcome_sectionsOfFrontmatter]
  simp only [sameOutcome_ok, beforeClosing_eq_some, segments_dashes]
  constructor
  · rintro (⟨part, v, ⟨first, lines, after, hs, hafter, hlines, rfl⟩, hv, hdoc⟩ | ⟨-, e, he, -⟩)
    · obtain ⟨rfl, hrest⟩ := List.cons.inj hs
      exact ⟨lines, after, v, hrest, hafter, hlines, hv, hdoc⟩
    · cases he
  · rintro ⟨lines, after, v, hs, hafter, hlines, hv, hdoc⟩
    exact Or.inl ⟨_, v, ⟨"---", lines, after, by rw [hs], hafter, hlines, rfl⟩, hv, hdoc⟩

theorem ofText_framed_empty {rest : String} (h : "---" ∉ (Text.segments '\n' rest).dropLast) :
    ofText (framed "" rest) = .error .openFrontmatter := by
  have hb : beforeClosing ("---\n" ++ rest).toList = none := by
    refine Option.eq_none_iff_forall_ne_some.mpr fun cs hcs => ?_
    obtain ⟨part, rfl⟩ : ∃ part : String, cs = part.toList := ⟨_, String.toList_ofList.symm⟩
    obtain ⟨first, lines, after, hs, hafter, -⟩ := beforeClosing_eq_some.mp hcs
    rw [segments_dashes] at hs
    obtain ⟨-, hs⟩ := List.cons.inj hs
    rw [hs, List.dropLast_append_of_ne_nil (List.cons_ne_nil _ _),
      List.dropLast_cons_of_ne_nil hafter] at h
    exact h (List.mem_append_right _ List.mem_cons_self)
  rw [ofText_framed, String.empty_append, sectionsOfFrontmatter, hb]
  rfl

/-- A text has the same outcome between two lines of dashes, before any other text, exactly where
the loader reads it without its last line feed as a value that has this outcome. As long as the line
feed makes no difference to the value, the documents are the same. An empty text has no line feed
before the line that should close it: the outcome is that of what stands before the next line of
dashes, as far as there is one. -/
theorem ofText_framed_iff {t : String} (h : Framable t) (rest : String) :
    (∀ body, t = body ++ "\n" →
      (SameOutcome (ofText (framed t rest)) (ofText t) ↔
        ∃ v, Yaml.read body = .ok v ∧ SameOutcome (ofValue v) (ofText t)) ∧
      ∀ v, Yaml.read body = .ok v → Yaml.read t = .ok v →
        ∀ doc, ofText (framed t rest) = .ok doc ↔ ofText t = .ok doc) ∧
    (t = "" →
      (SameOutcome (ofText (framed t rest)) (ofText t) ↔
        ∃ lines after v, Text.segments '\n' rest = lines ++ "---" :: after ∧ after ≠ [] ∧
          "---" ∉ lines ∧ Yaml.read (String.intercalate "\n" ("---" :: lines)) = .ok v ∧
          ofValue v = .ok {}) ∧
      ("---" ∉ (Text.segments '\n' rest).dropLast →
        ofText (framed t rest) = .error .openFrontmatter)) := by
  refine ⟨?_, ?_⟩
  · rintro body rfl
    refine ⟨sameOutcome_framed_body h.undashed rest, fun v hv ht doc => ?_⟩
    rw [ofText_framed_eq_ok h.undashed hv,
      ofText_of_read (afterOpening?_of_undashed h.undashed) ht]
  · rintro rfl
    rw [ofText_empty]
    exact ⟨sameOutcome_framed_empty rest, ofText_framed_empty⟩

def titledText : String := "title: x"

theorem ofText_framed_iff_titledText : Framable (titledText ++ "\n") ∧
    ∀ rest, SameOutcome (ofText (framed (titledText ++ "\n") rest)) (ofText (titledText ++ "\n")) := by
  have hframable : Framable (titledText ++ "\n") := ⟨Or.inr ⟨_, rfl⟩, by decide +kernel⟩
  refine ⟨hframable, fun rest => ((ofText_framed_iff hframable rest).1 _ rfl).1.mpr ?_⟩
  have hy : yields (Yaml.read titledText) (fun v => yields (ofValue v) isBlank) = true := by
    decide +kernel
  obtain ⟨v, hv, hy⟩ := exists_of_yields hy
  have hdoc : ofText (titledText ++ "\n") = .ok {} := eq_ok_blank (by decide +kernel)
  exact ⟨v, hv, Or.inl ⟨_, eq_ok_blank hy, hdoc⟩⟩

def onlyText? : Value → Option String
  | .mapping [(_, .scalar (.text s))] => some s
  | _ => none

/-- The last line feed of a literal block makes a difference to the value. -/
example : (Yaml.read "x: |\n  y").toOption.bind onlyText? = some "y" ∧
    (Yaml.read "x: |\n  y\n").toOption.bind onlyText? = some "y\n" := by decide +kernel

/-- An empty text is a document, and is not found between two lines of dashes. -/
theorem not_sameOutcome_framed_empty :
    Framable "" ∧ ¬ SameOutcome (ofText (framed "" "")) (ofText "") := by
  refine ⟨⟨Or.inl rfl, by decide +kernel⟩, ?_⟩
  have hframed : yields (ofText (framed "" "")) (fun _ => true) = false := by decide +kernel
  rw [ofText_empty, sameOutcome_ok]
  intro h
  rw [h] at hframed
  cases hframed

end Framed

end Document

end FluentKotlin
