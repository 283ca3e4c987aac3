import FluentKotlin.Proofs.Kotlin.QualifiedName
import FluentKotlin.Proofs.Text.WordCharacter

/-! # Names in type texts

A name is read as the same token wherever it is followed by something that does not go on with it.
A name that has nothing empty between its dots keeps all of itself in the name of its class. Dotted
identifiers are such names, also with another such name behind them.
-/

namespace FluentKotlin

def isIdentifier (s : String) : Bool :=
  match s.toList with
  | [] => false
  | c :: cs => TypeToken.startsWord c && cs.all Text.isWord

def isDotted (s : String) : Bool := (Text.segments '.' s).all isIdentifier

namespace TypeToken

variable {c : Char} {cs : List Char} {t : TypeToken}

/-- A name in front of these characters does not go on with them. -/
def Stops (cs : List Char) : Prop := ∀ c ∈ cs.head?, continuesWord c = false

theorem stops_nil : Stops [] := nofun

theorem stops_cons (h : continuesWord c = false) (cs : List Char) : Stops (c :: cs) := by
  rintro d ⟨⟩
  exact h

theorem Stops.takeWhile_eq_nil (h : Stops cs) : cs.takeWhile continuesWord = [] := by
  cases cs with
  | nil => rfl
  | cons c cs => exact List.takeWhile_cons_of_neg (by simp [h c rfl])

theorem Stops.dropWhile_eq_self (h : Stops cs) : cs.dropWhile continuesWord = cs := by
  cases cs with
  | nil => rfl
  | cons c cs => exact List.dropWhile_cons_of_neg (by simp [h c rfl])

structure Notes (t : TypeToken) (name : String) : Prop where
  text : t.text = name
  isName : t.isName = true
  scan : ∀ rest, Stops rest → scan (name.toList ++ rest) = t :: scan rest

theorem notes_word (hc : startsWord c = true) (hcs : ∀ x ∈ cs, continuesWord x = true) :
    Notes (word c cs) (String.ofList (c :: cs)) where
  text := rfl
  isName := rfl
  scan rest hr := by
    have hb := isBlank_of_continuesWord (continuesWord_of_startsWord hc)
    rw [String.toList_ofList, List.cons_append, scan_word hb hc,
      List.takeWhile_append_of_pos hcs, List.dropWhile_append_of_pos hcs, hr.takeWhile_eq_nil,
      hr.dropWhile_eq_self, List.append_nil]

theorem notes_letter (hl : Text.isLetter c = true) (hw : startsWord c = false) :
    Notes (mark c) (String.ofList [c]) where
  text := rfl
  isName := hl
  scan rest _ := by
    have hm : c ≠ Text.mark := by
      rintro rfl
      revert hl
      decide +kernel
    rw [String.toList_ofList, List.singleton_append, scan_mark (Text.isBlank_of_isLetter hl) hw hm]

/-- The names of a text are read again from their own texts. -/
theorem notes_of_mem_scan (h : t ∈ scan cs) (hn : t.isName = true) :
    t.Notes t.text ∧ ∀ c ∈ t.chars, continuesWord c = true := by
  fun_induction scan cs with
  | case1 => cases h
  | case2 c cs _ ih => exact ih h
  | case3 c cs _ hw ih =>
    rcases List.mem_cons.mp h with rfl | h
    · have hcs : ∀ x ∈ cs.takeWhile continuesWord, continuesWord x = true :=
        fun x hx => List.mem_takeWhile_imp hx
      exact ⟨notes_word hw hcs, List.forall_mem_cons.mpr ⟨continuesWord_of_startsWord hw, hcs⟩⟩
    · exact ih h
  | case4 cs _ _ ih =>
    rcases List.mem_append.mp h with hr | h
    · obtain ⟨d, _, rfl⟩ := List.mem_map.mp hr
      cases hn
    · exact ih h
  | case5 c cs _ hw _ ih =>
    rcases List.mem_cons.mp h with rfl | h
    · exact ⟨notes_letter hn (by simpa using hw),
        List.forall_mem_singleton.mpr (continuesWord_of_isLetter hn)⟩
    · exact ih h

end TypeToken

open TypeToken

variable {name package : String}

/-- The name has word characters only, and nothing empty between its dots. -/
structure Whole (name : String) : Prop where
  chars : ∀ c ∈ name.toList, continuesWord c = true
  segments : ∀ s ∈ Text.segments '.' name, s ≠ ""

/-- A whole name that is one token. -/
structure Noted (name : String) : Prop extends Whole name where
  token : ∃ t : TypeToken, t.Notes name

theorem Whole.nameSegments_eq (h : Whole name) :
    ClassName.nameSegments name = Text.segments '.' name := by
  rw [ClassName.nameSegments_of_unspaced fun c hc => isBlank_of_continuesWord (h.chars c hc),
    List.filter_eq_self]
  simpa using h.segments

theorem Whole.exists_class (h : Whole name) :
    ∃ c, ClassName.ofQualified name = .ok c ∧ c.canonicalName = name := by
  have hname : ClassName.IsName name := by
    unfold ClassName.IsName
    rw [h.nameSegments_eq]
    exact Text.segments_ne_nil '.' name
  obtain ⟨c, hc⟩ := ClassName.exists_ofQualified hname
  exact ⟨c, hc, ClassName.canonicalName_of_ofQualified hc h.nameSegments_eq⟩

theorem Whole.ne_empty (h : Whole name) : name ≠ "" := by
  rintro rfl
  exact h.segments "" (by decide) rfl

theorem Whole.lastSegment (h : Whole name) : Whole (Text.lastSegment name) where
  chars c hc := h.chars c (Text.mem_of_mem_segments (Text.lastSegment_mem name) hc)
  segments s hs := by
    rw [Text.segments_eq_singleton (Text.not_mem_lastSegment name), List.mem_singleton] at hs
    rw [hs]
    exact h.segments _ (Text.lastSegment_mem name)

theorem Whole.noted {c : Char} {cs : List Char} (h : Whole name) (hc : name.toList = c :: cs)
    (hw : startsWord c = true) : Noted name := by
  have hchars := h.chars
  rw [hc] at hchars
  have hnotes := notes_word hw (List.forall_mem_cons.mp hchars).2
  rw [← hc, String.ofList_toList] at hnotes
  exact ⟨h, _, hnotes⟩

theorem Noted.of_mem_scan {t : TypeToken} {cs : List Char} (h : t ∈ scan cs)
    (hn : t.isName = true) (hs : ∀ s ∈ Text.segments '.' t.text, s ≠ "") : Noted t.text := by
  obtain ⟨hnotes, hchars⟩ := notes_of_mem_scan h hn
  refine ⟨⟨?_, hs⟩, t, hnotes⟩
  unfold text
  rwa [String.toList_ofList]

section Dotted

theorem exists_startsWord_of_isDotted (h : isDotted name = true) :
    ∃ c cs, name.toList = c :: cs ∧ startsWord c = true := by
  obtain ⟨s, ss, hs⟩ := List.exists_cons_of_ne_nil (Text.segments_ne_nil '.' name)
  have hid := List.all_eq_true.mp h s (by simp [hs])
  have hname := congrArg String.toList (Text.intercalate_segments '.' name)
  rw [hs, String.toList_intercalate, List.map_cons] at hname
  unfold isIdentifier at hid
  cases hc : s.toList with
  | nil =>
    rw [hc] at hid
    cases hid
  | cons c cs =>
    rw [hc] at hid
    obtain ⟨hstart, _⟩ := (Bool.and_eq_true _ _).mp hid
    rw [hc] at hname
    cases ss with
    | nil => exact ⟨c, cs, by simpa using hname.symm, hstart⟩
    | cons u us =>
      rw [List.intercalate_cons_of_ne_nil (by simp), List.append_assoc, List.cons_append] at hname
      exact ⟨c, _, hname.symm, hstart⟩

theorem continuesWord_of_isIdentifier (h : isIdentifier name = true) :
    ∀ c ∈ name.toList, continuesWord c = true := by
  unfold isIdentifier at h
  cases hc : name.toList with
  | nil => exact List.forall_mem_nil _
  | cons c cs =>
    rw [hc] at h
    obtain ⟨hstart, hcs⟩ := (Bool.and_eq_true _ _).mp h
    refine List.forall_mem_cons.mpr ⟨continuesWord_of_startsWord hstart, fun d hd => ?_⟩
    simp [continuesWord, List.all_eq_true.mp hcs d hd]

theorem Whole.of_isDotted (h : isDotted name = true) : Whole name where
  chars c hc := by
    by_cases hd : c = '.'
    · rw [hd]
      decide
    · obtain ⟨s, hs, hcs⟩ := Text.exists_mem_segments hc hd
      exact continuesWord_of_isIdentifier (List.all_eq_true.mp h s hs) c hcs
  segments s hs := by
    rintro rfl
    cases List.all_eq_true.mp h "" hs

theorem Noted.of_isDotted (h : isDotted name = true) : Noted name := by
  obtain ⟨c, cs, hc, hw⟩ := exists_startsWord_of_isDotted h
  exact (Whole.of_isDotted h).noted hc hw

/-- A whole name below a dotted one is one token with it. -/
theorem Noted.below (hp : isDotted package = true) (hn : Whole name) :
    Noted (package ++ "." ++ name) := by
  obtain ⟨c, cs, hc, hw⟩ := exists_startsWord_of_isDotted hp
  have hpackage := Whole.of_isDotted hp
  have hwhole : Whole (package ++ "." ++ name) := {
    chars := by
      rw [String.toList_append, String.toList_append, List.append_assoc]
      refine List.forall_mem_append.mpr ⟨hpackage.chars, ?_⟩
      exact List.forall_mem_cons.mpr ⟨by decide, hn.chars⟩
    segments := by
      rw [Text.segments_below]
      exact List.forall_mem_append.mpr ⟨hpackage.segments, hn.segments⟩ }
  have hchars : (package ++ "." ++ name).toList = c :: (cs ++ ".".toList ++ name.toList) := by
    rw [String.toList_append, String.toList_append, hc]
    rfl
  exact hwhole.noted hchars hw

theorem isDotted_qualifier (h : isDotted name = true) :
    Text.qualifier name = "" ∨ isDotted (Text.qualifier name) = true := by
  by_cases hd : (Text.segments '.' name).dropLast = []
  · left
    unfold Text.qualifier
    rw [hd]
    rfl
  · right
    have hs : Text.segments '.' (Text.qualifier name) = (Text.segments '.' name).dropLast :=
      Text.segments_intercalate
        (fun s hs => Text.not_mem_of_mem_segments (List.dropLast_subset _ hs)) hd
    unfold isDotted
    rw [hs]
    exact List.all_eq_true.mpr fun s hm => List.all_eq_true.mp h s (List.dropLast_subset _ hm)

end Dotted

end FluentKotlin
