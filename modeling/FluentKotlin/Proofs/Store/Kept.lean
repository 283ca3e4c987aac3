import FluentKotlin.Command.Run
import FluentKotlin.Proofs.Report.Value
import FluentKotlin.Proofs.Text.Segments
import FluentKotlin.Store.Tree

/-! # What a file tree keeps

Making directories replaces no file, and writing a file replaces none but the one that it names. So
after files have been written one after the other, every one whose way no later file has is there
with its own text.
-/

namespace FluentKotlin

def FileEntry.text? : FileEntry → Option String
  | directory => none
  | file text => some text

theorem FileEntry.text?_eq_some_iff {e : FileEntry} {text : String} :
    e.text? = some text ↔ e = .file text := by
  cases e <;> simp [text?]

namespace FileTree

variable {t t' : FileTree} {names other : List String} {text : String}

theorem get?_of_ne_nil (h : names ≠ []) : t.get? names = t.entries.lookup (way names) := by
  unfold get?
  rw [if_neg (by simpa using h)]

theorem way_injective (h : ∀ s ∈ names, '/' ∉ s.toList) (ho : ∀ s ∈ other, '/' ∉ s.toList)
    (hn : names ≠ []) (hon : other ≠ []) (he : way names = way other) : names = other := by
  rw [← Text.segments_intercalate h hn, ← Text.segments_intercalate ho hon]
  exact congrArg (Text.segments '/') he

def Holds (t : FileTree) (names : List String) (text : String) : Prop :=
  t.get? names = some (.file text)

def fileAt (t : FileTree) (way : String) : Option String :=
  (t.entries.lookup way).bind FileEntry.text?

theorem holds_iff : t.Holds names text ↔ names ≠ [] ∧ t.fileAt (way names) = some text := by
  have hat : t.fileAt (way names) = some text ↔
      t.entries.lookup (way names) = some (.file text) := by
    simp [fileAt, Option.bind_eq_some_iff, FileEntry.text?_eq_some_iff]
  rw [hat]
  constructor
  · intro h
    have hne : names ≠ [] := by
      rintro rfl
      cases h
    exact ⟨hne, (get?_of_ne_nil hne).symm.trans h⟩
  · rintro ⟨hne, h⟩
    exact (get?_of_ne_nil hne).trans h

theorem lookup_put (names : List String) (entry : FileEntry) (t : FileTree) (w : String) :
    (t.put names entry).entries.lookup w =
      if w = way names then some entry else t.entries.lookup w := by
  unfold put
  by_cases hw : w = way names
  · simp [hw]
  · simp [List.lookup_cons, beq_false_of_ne hw, lookup_filter_ne hw, hw]

theorem fileAt_put_file (names : List String) (text : String) (t : FileTree) (w : String) :
    (t.put names (.file text)).fileAt w = if w = way names then some text else t.fileAt w := by
  unfold fileAt
  rw [lookup_put]
  split
  · rfl
  · rfl

/-- A directory that is put where nothing stands replaces no file, be it under other names with the
same way. -/
theorem fileAt_put_directory (h : t.get? names = none) (w : String) :
    (t.put names .directory).fileAt w = t.fileAt w := by
  have hne : names ≠ [] := by
    rintro rfl
    cases h
  unfold fileAt
  rw [lookup_put]
  by_cases hw : w = way names
  · rw [if_pos hw, hw, ← get?_of_ne_nil hne, h]
    rfl
  · rw [if_neg hw]

theorem fileAt_makeDirectories {here : List String} (h : t.makeDirectories here names = .ok t')
    (w : String) : t'.fileAt w = t.fileAt w := by
  induction names generalizing here t with
  | nil =>
    cases h
    rfl
  | cons name names ih =>
    unfold makeDirectories at h
    dsimp only at h
    cases hn : t.get? (here ++ [name]) with
    | none =>
      rw [hn] at h
      cases hl : EntryName.isTooLong name with
      | true =>
        rw [hl] at h
        cases h
      | false =>
        rw [hl] at h
        exact (ih h).trans (fileAt_put_directory hn w)
    | some entry =>
      rw [hn] at h
      cases entry with
      | directory => exact ih h
      | file _ => cases h

theorem checked_eq_ok {path found : Path} (h : checked path = .ok found) :
    found = path ∧ path.fault? = none := by
  unfold checked at h
  cases hf : path.fault? with
  | some fault =>
    rw [hf] at h
    cases h
  | none =>
    rw [hf] at h
    cases hl : path.isTooLong with
    | true =>
      rw [hl] at h
      cases h
    | false =>
      rw [hl] at h
      cases h
      exact ⟨rfl, rfl⟩

theorem makeDirectory_eq_ok {path : Path} (h : t.makeDirectory path = .ok t') :
    t.makeDirectories [] path.names = .ok t' := by
  unfold makeDirectory at h
  obtain ⟨found, hc, hm⟩ := bind_eq_ok.mp h
  obtain ⟨rfl, _⟩ := checked_eq_ok hc
  exact hm

theorem writeFile_eq_ok {path : Path} (h : t.writeFile path text = .ok t') :
    path.fault? = none ∧ path.names ≠ [] ∧ t' = t.put path.names (.file text) := by
  unfold writeFile at h
  obtain ⟨found, hc, hw⟩ := bind_eq_ok.mp h
  obtain ⟨rfl, hf⟩ := checked_eq_ok hc
  dsimp only at hw
  cases hl : found.names.any EntryName.isTooLong with
  | true =>
    rw [hl] at hw
    cases hw
  | false =>
    rw [hl, if_neg Bool.false_ne_true] at hw
    cases hd : t.isDirectory found.names with
    | true =>
      rw [hd] at hw
      cases hw
    | false =>
      rw [hd, if_neg Bool.false_ne_true] at hw
      cases hb : Text.holdsHalf text with
      | true =>
        rw [hb] at hw
        cases hw
      | false =>
        rw [hb] at hw
        cases hw
        refine ⟨hf, ?_, rfl⟩
        intro hn
        rw [hn] at hd
        cases hd

end FileTree

namespace Filing

variable {α β : Type} {t t' : FileTree} {path directory : Path} {text : String} {u : Unit}

theorem run_bind_eq_ok {x : Filing α} {f : α → Filing β} {b : β}
    (h : (x >>= f).run t = .ok (b, t')) :
    ∃ a mid, x.run t = .ok (a, mid) ∧ (f a).run mid = .ok (b, t') := by
  rw [StateT.run_bind] at h
  obtain ⟨⟨a, mid⟩, hx, h⟩ := bind_eq_ok.mp h
  exact ⟨a, mid, hx, h⟩

theorem run_liftM_eq_ok {x : Except StoreError α} {a : α}
    (h : (liftM x : Filing α).run t = .ok (a, t')) : x = .ok a ∧ t' = t := by
  cases x with
  | ok b =>
    cases h
    exact ⟨rfl, rfl⟩
  | error e => cases h

theorem run_update_eq_ok {f : FileTree → Except StoreError FileTree}
    (h : (do set (← f (← get)) : Filing Unit).run t = .ok (u, t')) : f t = .ok t' := by
  obtain ⟨s, _, hs, hrest⟩ := run_bind_eq_ok h
  cases hs
  obtain ⟨made, _, hf, hset⟩ := run_bind_eq_ok hrest
  obtain ⟨hf, rfl⟩ := run_liftM_eq_ok hf
  cases hset
  exact hf

theorem run_kind?_eq_ok {kind : Option EntryKind}
    (h : (FileStore.kind? path : Filing _).run t = .ok (kind, t')) : t' = t :=
  (run_liftM_eq_ok (x := t.kindAt (shown path)) h).2

theorem run_read_eq_ok (h : (FileStore.read path : Filing _).run t = .ok (text, t')) : t' = t :=
  (run_liftM_eq_ok (x := t.readFile (shown path)) h).2

theorem run_resolve_eq_ok {found : Path}
    (h : (FileStore.resolve directory path : Filing _).run t = .ok (found, t')) :
    resolve directory path = .ok found ∧ t' = t :=
  run_liftM_eq_ok h

theorem run_isEmpty_eq_ok {b : Bool}
    (h : (FileStore.isEmpty path : Filing _).run t = .ok (b, t')) :
    b = !t.hasInside (shown path).names ∧ t' = t := by
  cases h
  exact ⟨rfl, rfl⟩

theorem run_makeDirectory_eq_ok
    (h : (FileStore.makeDirectory path : Filing _).run t = .ok (u, t')) :
    t.makeDirectories [] (shown path).names = .ok t' :=
  FileTree.makeDirectory_eq_ok (run_update_eq_ok (f := (·.makeDirectory (shown path))) h)

theorem run_write_eq_ok (h : (FileStore.write path text : Filing _).run t = .ok (u, t')) :
    t.writeFile (shown path) text = .ok t' :=
  run_update_eq_ok (f := (·.writeFile (shown path) text)) h

end Filing

namespace Request

variable {t t' : FileTree} {text : String} {path destination : Path} {fs : List SourceFile}

theorem run_writeFile_eq_ok {u : Unit}
    (h : (writeFile path text : Filing Unit).run t = .ok (u, t')) :
    (Filing.shown path).fault? = none ∧ (Filing.shown path).names ≠ [] ∧ ∀ w, t'.fileAt w =
      if w = FileTree.way (Filing.shown path).names then some text else t.fileAt w := by
  unfold writeFile at h
  obtain ⟨_, mid, hm, hw⟩ := Filing.run_bind_eq_ok h
  obtain ⟨hf, hne, rfl⟩ := FileTree.writeFile_eq_ok (Filing.run_write_eq_ok hw)
  refine ⟨hf, hne, fun w => ?_⟩
  rw [FileTree.fileAt_put_file, FileTree.fileAt_makeDirectories (Filing.run_makeDirectory_eq_ok hm)]

/-- The names by which the tree knows a generated file. -/
def entryNames (destination : Path) (f : SourceFile) : List String :=
  (Filing.shown (f.outputPath destination)).names

def place (destination : Path) (f : SourceFile) : String :=
  FileTree.way (entryNames destination f)

theorem run_writeFiles_cons {f : SourceFile}
    (h : (writeFiles destination (f :: fs) : Filing _).run t = .ok (.ok (), t')) :
    ∃ text mid, f.text = .ok text ∧
      (writeFile (f.outputPath destination) text : Filing Unit).run t = .ok ((), mid) ∧
      (writeFiles destination fs : Filing _).run mid = .ok (.ok (), t') := by
  unfold writeFiles at h
  cases hf : f.text with
  | error e =>
    rw [hf] at h
    cases h
  | ok text =>
    rw [hf] at h
    obtain ⟨_, mid, hw, hrest⟩ := Filing.run_bind_eq_ok h
    exact ⟨text, mid, rfl, hw, hrest⟩

theorem fileAt_of_run_writeFiles
    (h : (writeFiles destination fs : Filing _).run t = .ok (.ok (), t')) {w : String}
    (hw : ∀ f ∈ fs, place destination f ≠ w) : t'.fileAt w = t.fileAt w := by
  induction fs generalizing t with
  | nil =>
    cases h
    rfl
  | cons f fs ih =>
    obtain ⟨hf, hfs⟩ := List.forall_mem_cons.mp hw
    obtain ⟨_, mid, _, hwrite, h⟩ := run_writeFiles_cons h
    rw [ih h hfs, (run_writeFile_eq_ok hwrite).2.2]
    exact if_neg (Ne.symm hf)

theorem fault?_of_run_writeFiles
    (h : (writeFiles destination fs : Filing _).run t = .ok (.ok (), t')) :
    ∀ f ∈ fs, (Filing.shown (f.outputPath destination)).fault? = none := by
  induction fs generalizing t with
  | nil => exact List.forall_mem_nil _
  | cons f fs ih =>
    obtain ⟨_, mid, _, hwrite, h⟩ := run_writeFiles_cons h
    exact List.forall_mem_cons.mpr ⟨(run_writeFile_eq_ok hwrite).1, ih h⟩

/-- Of the files that are written to one place the last one stands there. -/
theorem holds_of_run_writeFiles {before after : List SourceFile} {f : SourceFile}
    (h : (writeFiles destination (before ++ f :: after) : Filing _).run t = .ok (.ok (), t'))
    (hlast : ∀ g ∈ after, place destination g ≠ place destination f) :
    ∃ text, f.text = .ok text ∧ t'.Holds (entryNames destination f) text := by
  induction before generalizing t with
  | nil =>
    obtain ⟨text, mid, ht, hwrite, h⟩ := run_writeFiles_cons h
    obtain ⟨_, hne, hat⟩ := run_writeFile_eq_ok hwrite
    refine ⟨text, ht, FileTree.holds_iff.mpr ⟨hne, ?_⟩⟩
    exact (fileAt_of_run_writeFiles h hlast).trans ((hat _).trans (if_pos rfl))
  | cons g before ih =>
    obtain ⟨_, mid, _, _, h⟩ := run_writeFiles_cons h
    exact ih h

/-- After files with different ways have been written, each stands there with its text. -/
theorem holds_each_of_run_writeFiles
    (h : (writeFiles destination fs : Filing _).run t = .ok (.ok (), t'))
    (hw : (fs.map fun f => FileTree.way (entryNames destination f)).Nodup) :
    ∀ f ∈ fs, ∃ text, f.text = .ok text ∧ t'.Holds (entryNames destination f) text := by
  intro f hf
  obtain ⟨before, after, rfl⟩ := List.append_of_mem hf
  refine holds_of_run_writeFiles h fun g hg he => ?_
  rw [List.map_append, List.map_cons] at hw
  obtain ⟨hnew, _⟩ := List.nodup_cons.mp (List.nodup_append.mp hw).2.1
  exact hnew (List.mem_map.mpr ⟨g, hg, he⟩)

end Request

end FluentKotlin
