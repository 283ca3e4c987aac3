import FluentKotlin.Proofs.Document.Resolution
import FluentKotlin.Proofs.Document.TypeGrammar

/-! # Types are read back from their own texts

The text of the type that a reference denotes is a type text again. Each name of it is the qualified
name of what the first text named there, so it is read as the same reference, with the same null
marks.
-/

namespace FluentKotlin

namespace TypeToken

variable {c : Char} {cs ds : List Char} {ts us : List TypeToken}

/-- The tokens that characters are read as in front of everything that they do not go on with. -/
def Scans (cs : List Char) (ts : List TypeToken) : Prop :=
  ∀ rest, Stops rest → scan (cs ++ rest) = ts ++ scan rest

theorem Stops.append (h : Stops cs) (hne : cs ≠ []) (rest : List Char) : Stops (cs ++ rest) := by
  obtain ⟨c, cs, rfl⟩ := List.exists_cons_of_ne_nil hne
  exact h

theorem Notes.scans {t : TypeToken} {name : String} (h : t.Notes name) : Scans name.toList [t] :=
  h.scan

theorem Scans.append (h : Scans cs ts) (hs : Stops ds) (hne : ds ≠ []) (hd : Scans ds us) :
    Scans (cs ++ ds) (ts ++ us) := by
  intro rest hr
  rw [List.append_assoc, h _ (hs.append hne rest), hd rest hr, List.append_assoc]

theorem Scans.cons_mark (hw : continuesWord c = false) (hb : Text.isBlank c = false)
    (hm : c ≠ Text.mark) (h : Scans cs ts) : Scans (c :: cs) (mark c :: ts) := by
  have hs : startsWord c = false := Bool.eq_false_iff.mpr fun hs =>
    Bool.eq_false_iff.mp hw (continuesWord_of_startsWord hs)
  intro rest hr
  rw [List.cons_append, scan_mark hb hs hm, h rest hr, List.cons_append]

theorem Scans.cons_blank (hb : Text.isBlank c = true) (h : Scans cs ts) : Scans (c :: cs) ts := by
  intro rest hr
  rw [List.cons_append, scan_blank hb, h rest hr]

theorem scans_nil : Scans [] [] := fun _ _ => rfl

theorem Scans.scan_eq (h : Scans cs ts) : scan cs = ts := by
  have hs := h [] stops_nil
  rwa [List.append_nil, scan_nil, List.append_nil] at hs

/-- A text without marks is read as the same tokens in front of everything that does not go on with
its last one. -/
theorem scans_of_unmarked (h : Text.mark ∉ cs) : Scans cs (scan cs) := by
  intro rest hr
  fun_induction scan cs with
  | case1 => rfl
  | case2 c cs hb ih =>
    rw [List.cons_append, scan_blank hb, ih (List.not_mem_of_not_mem_cons h)]
  | case3 c cs hb hw ih =>
    have hdrop : Text.mark ∉ cs.dropWhile continuesWord := fun hm =>
      List.not_mem_of_not_mem_cons h ((List.dropWhile_sublist _).mem hm)
    rw [List.cons_append, scan_word (by simpa using hb) hw, List.cons_append, ← ih hdrop]
    have htake : (cs ++ rest).takeWhile continuesWord = cs.takeWhile continuesWord := by
      rw [List.takeWhile_append, hr.takeWhile_eq_nil, List.append_nil]
      by_cases hl : (cs.takeWhile continuesWord).length = cs.length
      · rw [if_pos hl]
        exact ((List.takeWhile_prefix _).eq_of_length hl).symm
      · rw [if_neg hl]
    have hrest : (cs ++ rest).dropWhile continuesWord = cs.dropWhile continuesWord ++ rest := by
      rw [List.dropWhile_append, hr.dropWhile_eq_self]
      cases he : (cs.dropWhile continuesWord).isEmpty with
      | true => rw [if_pos rfl, List.isEmpty_iff.mp he, List.nil_append]
      | false => rw [if_neg Bool.false_ne_true]
    rw [htake, hrest]
  | case4 cs hb hw ih => exact absurd List.mem_cons_self h
  | case5 c cs hb hw hm ih =>
    rw [List.cons_append, scan_mark (by simpa using hb) (by simpa using hw) hm, List.cons_append,
      ih (List.not_mem_of_not_mem_cons h)]

end TypeToken

open TypeToken

namespace TypeTree

variable {cs : List Char} {t : TypeToken} {tree : TypeTree} {arguments : List TypeTree}
  {name : String} {parts : List (List Char × TypeTree)}

/-- The characters are read as tokens from which the grammar derives the tree. -/
def Prints (cs : List Char) (tree : TypeTree) : Prop := ∃ ts, Scans cs ts ∧ Derives ts tree

theorem prints_name (h : t.Notes name) : Prints name.toList (.node t [] false) :=
  ⟨[t], h.scans, .name h.isName⟩

theorem Prints.marked (h : Prints cs (.node t arguments false)) :
    Prints (cs ++ ['?']) (.node t arguments true) := by
  obtain ⟨ts, hs, hd⟩ := h
  have hmark : Scans ['?'] [mark '?'] :=
    scans_nil.cons_mark (by decide +kernel) (by decide) (by decide)
  exact ⟨_, hs.append (stops_cons (by decide +kernel) []) (by simp) hmark, hd.marked⟩

theorem Prints.nullMark (h : Prints cs (.node t arguments false)) (nullable : Bool) :
    Prints (cs ++ (nullMark nullable).toList) (.node t arguments nullable) := by
  cases nullable with
  | true => exact h.marked
  | false =>
    rw [show (FluentKotlin.nullMark false).toList = [] from rfl, List.append_nil]
    exact h

theorem exists_listed (hne : parts ≠ []) (h : ∀ p ∈ parts, Prints p.1 p.2) :
    ∃ read : List (List TypeToken × TypeTree), read.map (·.2) = parts.map (·.2) ∧
      (∀ p ∈ read, Derives p.1 p.2) ∧
      Scans ([',', ' '].intercalate (parts.map (·.1))) (listed (read.map (·.1))) := by
  induction parts with
  | nil => exact absurd rfl hne
  | cons p parts ih =>
    obtain ⟨⟨ts, hs, hd⟩, hparts⟩ := List.forall_mem_cons.mp h
    by_cases hnil : parts = []
    · subst hnil
      refine ⟨[(ts, p.2)], rfl, by simpa using hd, ?_⟩
      simpa using hs
    · obtain ⟨read, htrees, hread, hscans⟩ := ih hnil hparts
      have hrne : read ≠ [] := by
        rintro rfl
        exact hnil (by simpa using htrees.symm)
      refine ⟨(ts, p.2) :: read, by simp [htrees], List.forall_mem_cons.mpr ⟨hd, hread⟩, ?_⟩
      rw [List.map_cons, List.map_cons, listed_cons (by simpa using hrne),
        List.intercalate_cons_of_ne_nil (by simpa using hnil), List.append_assoc]
      refine hs.append (stops_cons (by decide +kernel) _) (by simp) ?_
      exact (hscans.cons_blank (by decide)).cons_mark (by decide +kernel) (by decide) (by decide)

theorem prints_applied (hn : t.Notes name) (hne : parts ≠ [])
    (h : ∀ p ∈ parts, Prints p.1 p.2) :
    Prints (name.toList ++ '<' :: [',', ' '].intercalate (parts.map (·.1)) ++ ['>'])
      (.node t (parts.map (·.2)) false) := by
  obtain ⟨read, htrees, hread, hscans⟩ := exists_listed hne h
  have hrne : read ≠ [] := by
    rintro rfl
    exact hne (by simpa using htrees.symm)
  have hclose : Scans ['>'] [mark '>'] :=
    scans_nil.cons_mark (by decide +kernel) (by decide) (by decide)
  have hbody := hscans.append (stops_cons (by decide +kernel) []) (by simp) hclose
  have hall := hn.scans.append (stops_cons (by decide +kernel) _) (by simp)
    (hbody.cons_mark (by decide +kernel : continuesWord '<' = false) (by decide) (by decide))
  refine ⟨_, by simpa using hall, ?_⟩
  rw [← htrees]
  simpa using Derives.applied hn.isName hrne hread

end TypeTree

/-! ### The type that a reference denotes -/

variable {registry : Registry} {package name : String} {rs : List TypeRef} {r : TypeRef}
  {types : List TypeName} {c : ClassName}

theorem TypeRef.ofQualified_listName :
    ClassName.ofQualified listName = .ok (containerClass .collection) := by decide +kernel

theorem TypeRef.ofQualified_mapName :
    ClassName.ofQualified mapName = .ok (containerClass .map) := by decide +kernel

/-- The class of a list or a map is the one that its qualified name gives. -/
theorem className_of_isContainer
    (h : TypeRef.isContainer (resolveName registry package name rs).kind rs.length = true) :
    (resolveName registry package name rs).className =
      .ok (TypeRef.containerClass (resolveName registry package name rs).kind) := by
  cases hs : standardRef? name rs with
  | some r =>
    rw [Registry.resolveName_of_standard hs] at h ⊢
    rw [standardRef?_eq, Option.or_eq_some_iff] at hs
    rcases hs with hs | ⟨-, hs⟩
    · split at hs
      · obtain ⟨kind, -, hlist, hmap, rfl⟩ := TypeRef.scalarRef?_eq_some hs
        simp [TypeRef.isContainer, TypeRef.scalar, hlist, hmap] at h
      · cases hs
    · -- A list with another number of arguments than one, or a map than two, is no container.
      split at hs
      · cases hs
        rcases rs with _ | ⟨_, _ | _⟩
        · cases h
        · exact TypeRef.ofQualified_listName
        · cases h
      · split at hs
        · cases hs
          rcases rs with _ | ⟨_, _ | ⟨_, _ | _⟩⟩
          · cases h
          · cases h
          · exact TypeRef.ofQualified_mapName
          · cases h
        · cases hs
  | none =>
    cases hl : registry.lookup name with
    | some d =>
      rw [Registry.resolveName_of_domain hs hl] at h
      cases h
    | none =>
      rw [Registry.resolveName_of_none hs hl] at h
      cases h

namespace TypeRef

theorem bareType_of_className (hc : r.className = .ok c)
    (hk : isContainer r.kind r.arguments.length = true → c = containerClass r.kind)
    (ha : argumentTypes r.arguments = .ok types) : r.bareType = .ok (applyAll c types) := by
  rw [bareType_eq, ha, hc]
  cases hcontainer : isContainer r.kind r.arguments.length with
  | false => rfl
  | true =>
    have hl := (argumentTypes_eq_ok.mp ha).length_eq
    have hne : types ≠ [] := by
      rintro rfl
      rw [hl] at hcontainer
      simp [isContainer] at hcontainer
    rw [if_pos rfl, ← hk hcontainer, applyAll, if_neg (by simpa using hne)]
    rfl

theorem written_applyAll_nil (c : ClassName) (b : Bool) :
    ((applyAll c []).withNullable b).written = c.canonicalName ++ nullMark b := rfl

theorem written_applyAll (hne : types ≠ []) (c : ClassName) (b : Bool) :
    ((applyAll c types).withNullable b).written = c.canonicalName ++ "<" ++
      String.intercalate ", " (types.map TypeName.written) ++ ">" ++ nullMark b := by
  have hclass : c.nonNull.written = c.canonicalName := String.append_empty
  unfold applyAll
  rw [if_neg (by simpa using hne), TypeName.apply, TypeName.withNullable, TypeName.written,
    TypeName.textWith, TypeName.textsWith_eq_map, hclass]
  rfl

end TypeRef

/-- The reference denotes a type, and the text of that type, marked or not, is read as the
reference. -/
def ReadBack (registry : Registry) (package : String) (r : TypeRef) : Prop :=
  ∃ type, r.bareType = .ok type ∧ ∀ nullable, ∃ tree,
    TypeTree.Prints (type.withNullable nullable).written.toList tree ∧
      tree.resolve registry package = r ∧ tree.nullable = nullable

theorem exists_arguments {ts : List TypeTree}
    (h : ∀ t ∈ ts, ReadBack registry package (t.resolve registry package)) :
    ∃ types, ∃ parts : List (List Char × TypeTree),
      TypeRef.argumentTypes (resolveArguments registry package ts) = .ok types ∧
        parts.map (·.1) = types.map (·.written.toList) ∧
        (∀ p ∈ parts, TypeTree.Prints p.1 p.2) ∧
        resolveArguments registry package (parts.map (·.2)) =
          resolveArguments registry package ts := by
  induction ts with
  | nil => exact ⟨[], [], rfl, rfl, List.forall_mem_nil _, rfl⟩
  | cons t ts ih =>
    obtain ⟨⟨type, ht, hread⟩, hts⟩ := List.forall_mem_cons.mp h
    obtain ⟨types, parts, htypes, hchars, hparts, hback⟩ := ih hts
    obtain ⟨tree, hp, hresolve, hnull⟩ := hread t.nullable
    refine ⟨type.withNullable t.nullable :: types,
      ((type.withNullable t.nullable).written.toList, tree) :: parts, ?_, ?_, ?_, ?_⟩
    · rw [resolveArguments, TypeRef.argumentTypes, TypeRef.bareType_withNullable, ht, htypes]
      rfl
    · rw [List.map_cons, List.map_cons, hchars]
    · exact List.forall_mem_cons.mpr ⟨hp, hparts⟩
    · rw [List.map_cons, resolveArguments, resolveArguments, hback, hresolve, hnull]

/-- No name of the text has a segment between its dots that is empty. -/
def HasWholeNames (text : String) : Prop :=
  ∀ t ∈ scan text.toList, t.isName = true → ∀ s ∈ Text.segments '.' t.text, s ≠ ""

instance (text : String) : Decidable (HasWholeNames text) :=
  inferInstanceAs (Decidable (∀ t ∈ scan text.toList, t.isName = true →
    ∀ s ∈ Text.segments '.' t.text, s ≠ ""))

namespace Registry.Keyed

variable (hk : registry.Keyed) (hp : package = "" ∨ isDotted package = true)

include hk hp

theorem readBack_node {token : TypeToken} {ts : List TypeTree} (hn : Noted token.text)
    (h : ∀ t ∈ ts, ReadBack registry package (t.resolve registry package)) (nullable : Bool) :
    ReadBack registry package
      ((TypeTree.node token ts nullable).resolve registry package) := by
  obtain ⟨types, parts, htypes, hchars, hparts, hback⟩ := exists_arguments h
  obtain ⟨q, hq, hqualified, hagain⟩ :=
    hk.resolveName_again hp hn (resolveArguments registry package ts)
  obtain ⟨c, hc, hcanonical⟩ := hq.exists_class
  obtain ⟨t, ht⟩ := hq.token
  rw [TypeTree.resolve]
  have hclass := TypeRef.className_of_qualifiedName hqualified hq.ne_empty
  rw [hc] at hclass
  have hbare := TypeRef.bareType_of_className hclass
    (fun hcontainer => by
      rw [arguments_resolveName] at hcontainer
      exact Except.ok.inj (hclass.symm.trans (className_of_isContainer hcontainer)))
    ((congrArg TypeRef.argumentTypes arguments_resolveName).trans htypes)
  refine ⟨_, hbare, fun b => ⟨.node t (parts.map (·.2)) b, ?_, ?_, rfl⟩⟩
  · -- Without arguments no brackets are written, so the two notations are shown one by one.
    by_cases hne : types = []
    · have hnil : parts = [] := by simpa [hne] using hchars
      rw [hne, hnil, TypeRef.written_applyAll_nil, hcanonical, String.toList_append]
      exact (TypeTree.prints_name ht).nullMark b
    · have hpne : parts ≠ [] := by
        rintro rfl
        exact hne (by simpa using hchars.symm)
      have happlied := (TypeTree.prints_applied ht hpne hparts).nullMark b
      rw [hchars] at happlied
      rw [TypeRef.written_applyAll hne, hcanonical]
      simpa [String.toList_intercalate, Function.comp_def] using happlied
  · rw [TypeTree.resolve, ht.text, hback, hagain]

/-- What the grammar derives from whole names is read back. -/
theorem readBack_of_derives {ts : List TypeToken} {tree : TypeTree}
    (h : TypeTree.Derives ts tree) (hn : ∀ t ∈ ts, t.isName = true → Noted t.text) :
    ReadBack registry package (tree.resolve registry package) := by
  induction h with
  | @name name hname =>
    exact hk.readBack_node hp (hn name List.mem_cons_self hname) (List.forall_mem_nil _) false
  | @applied name parts hname _ _ ih =>
    refine hk.readBack_node hp (hn name (by simp) hname) ?_ false
    intro t ht
    obtain ⟨p, hpart, rfl⟩ := List.mem_map.mp ht
    exact ih p hpart fun token hm => hn token (TypeTree.mem_applied hpart hm)
  | @marked name arguments ts hd ih =>
    have hback := ih fun token hm => hn token (List.mem_append_left _ hm)
    rw [TypeTree.resolve] at hback ⊢
    exact hback

/-- The type of a text is read back with its null mark. -/
theorem readTypeText_written {text : String} {nullable : Bool}
    (h : readTypeText registry package text = .ok (r, nullable)) (hw : HasWholeNames text) :
    ∃ type, r.typeAs nullable = .ok type ∧
      readTypeText registry package type.written = .ok (r, nullable) := by
  obtain ⟨tree, hd, htree⟩ := readTypeText_eq_ok.mp h
  cases htree
  obtain ⟨type, htype, hback⟩ := hk.readBack_of_derives hp hd fun t ht hn =>
    Noted.of_mem_scan ht hn (hw t ht hn)
  obtain ⟨back, ⟨ts, hs, hderives⟩, hresolve, hnull⟩ := hback tree.nullable
  refine ⟨_, TypeRef.typeAs_of_bareType htype _, readTypeText_eq_ok.mpr ⟨back, ?_, ?_⟩⟩
  · rw [hs.scan_eq]
    exact hderives
  · rw [hresolve, hnull]

end Registry.Keyed

end FluentKotlin
