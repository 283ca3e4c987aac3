import FluentKotlin.Kotlin.Layout
import FluentKotlin.Proofs.Pointwise
import FluentKotlin.Proofs.Text.Lines

/-! # Functions in the text of a file

A function stands in the text of its file, on lines of its own, indented once for every type around
it. Between its braces are its statements, indented once more, each on lines of its own. They are
kept exactly where no statement has a line break but line feeds: every other break is lost.
-/

namespace FluentKotlin

/-! ### The texts of several declarations -/

variable {classText : ClassName → String} {texts : List String}

theorem statementTextsWith_eq_ok {bs : List CodeBlock} :
    statementTextsWith classText bs = .ok texts ↔
      List.Forall₂ (fun b text => b.formattedWith classText = .ok text) bs texts :=
  eq_ok_iff_forall₂ (by rw [statementTextsWith]) fun b bs => by rw [statementTextsWith]

theorem propertyTextsWith_eq_ok {ps : List PropertyDecl} :
    propertyTextsWith classText ps = .ok texts ↔
      List.Forall₂ (fun p text => p.textWith classText = .ok text) ps texts :=
  eq_ok_iff_forall₂ (by rw [propertyTextsWith]) fun p ps => by rw [propertyTextsWith]

theorem functionTextsWith_eq_ok {fs : List FunctionDecl} :
    functionTextsWith classText fs = .ok texts ↔
      List.Forall₂ (fun f text => f.textWith classText = .ok text) fs texts :=
  eq_ok_iff_forall₂ (by rw [functionTextsWith]) fun f fs => by rw [functionTextsWith]

theorem typeTextsWith_eq_ok {ts : List TypeDecl} :
    typeTextsWith classText ts = .ok texts ↔
      List.Forall₂ (fun t text => t.textWith classText = .ok text) ts texts :=
  eq_ok_iff_forall₂ (by rw [typeTextsWith]) fun t ts => by rw [typeTextsWith]

def FunctionDecl.leadWith (classText : ClassName → String) (f : FunctionDecl) : String :=
  docText f.doc ++ annotationTextWith classText f.annotations ++ f.signatureWith classText

theorem FunctionDecl.textWith_eq_ok {f : FunctionDecl} {text : String} :
    f.textWith classText = .ok text ↔
      ∃ statements, statementTextsWith classText f.statements = .ok statements ∧
        text = f.leadWith classText ++ line " \x7b" ++ bodyText statements ++ "\x7d" := by
  unfold textWith leadWith line
  simp only [bind_eq_ok, pure_eq_ok, String.append_assoc]
  exact exists_congr fun _ => and_congr_right fun _ => eq_comm

def TypeDecl.leadWith (classText : ClassName → String) (t : TypeDecl) : String :=
  annotationTextWith classText t.annotations
    ++ line (typeHeaderWith classText t.name t.superType t.typeVariables t.modifiers ++ " \x7b")

theorem TypeDecl.textWith_eq_ok {t : TypeDecl} {text : String} :
    t.textWith classText = .ok text ↔
      ∃ properties functions nested, propertyTextsWith classText t.properties = .ok properties ∧
        functionTextsWith classText t.functions = .ok functions ∧
        typeTextsWith classText t.nested = .ok nested ∧
        text = t.leadWith classText ++ String.join (properties.map propertyLine)
          ++ String.join ((functions ++ nested).map fun s => member (Text.indent s)) ++ "\x7d" := by
  obtain ⟨name, superType, typeVariables, annotations, properties, functions, nested, modifiers⟩ := t
  rw [TypeDecl.textWith]
  simp only [bind_eq_ok, pure_eq_ok]
  constructor
  · rintro ⟨ps, hp, fs, hf, ns, hn, rfl⟩
    exact ⟨ps, fs, ns, hp, hf, hn, rfl⟩
  · rintro ⟨ps, fs, ns, hp, hf, hn, rfl⟩
    exact ⟨ps, hp, fs, hf, ns, hn, rfl⟩

def SourceFile.lead (f : SourceFile) : String :=
  line generatedHeader ++ packageText f.package ++ importText f.imports

theorem SourceFile.textWith_eq_ok {f : SourceFile} {text : String} :
    f.textWith classText = .ok text ↔
      ∃ types functions, typeTextsWith classText f.types = .ok types ∧
        functionTextsWith classText f.functions = .ok functions ∧
        text = endLine (f.lead ++
          String.join ((f.aliases.map (·.textWith classText) ++ types ++ functions).map member)) := by
  unfold textWith
  simp only [bind_eq_ok, pure_eq_ok]
  constructor
  · rintro ⟨ts, ht, fs, hf, rfl⟩
    exact ⟨ts, fs, ht, hf, rfl⟩
  · rintro ⟨ts, fs, ht, hf, rfl⟩
    exact ⟨ts, ht, fs, hf, rfl⟩

/-! ### Members on lines of their own -/

open Text

theorem stands_of_mem {texts : List String} {s : String} (g : String → String) (h : s ∈ texts)
    (lead rest : String) :
    Stands (g s) (lead ++ String.join (texts.map fun s => member (g s)) ++ rest) := by
  obtain ⟨before, after, rfl⟩ := List.append_of_mem h
  refine ⟨lead ++ String.join (before.map fun s => member (g s)),
    String.join (after.map fun s => member (g s)) ++ rest, ?_⟩
  rw [List.map_append, List.map_cons, String.join_append, String.join_cons, member, line, line]
  simp only [String.append_assoc, String.empty_append]

theorem rdropWhile_append_cons {α : Type} {p : α → Bool} {c : α} (hc : p c = false)
    (cs ds : List α) : (cs ++ c :: ds).rdropWhile p = cs ++ c :: ds.rdropWhile p := by
  induction ds using List.reverseRecOn with
  | nil => exact List.rdropWhile_concat_neg p cs c (by simp [hc])
  | append_singleton ds d ih =>
    rw [← List.cons_append, ← List.append_assoc]
    cases hd : p d with
    | true => rw [List.rdropWhile_concat_pos p _ d hd, List.rdropWhile_concat_pos p _ d hd, ih]
    | false =>
      rw [List.rdropWhile_concat_neg p _ d (by simp [hd]),
        List.rdropWhile_concat_neg p _ d (by simp [hd]), List.append_assoc, List.cons_append]

theorem exists_rdropWhile_feed (cs : List Char) :
    ∃ ds, ('\n' :: cs).rdropWhile (· == '\n') ++ ['\n'] = '\n' :: ds := by
  have hp := List.rdropWhile_prefix (p := (· == '\n')) ('\n' :: cs)
  cases hd : ('\n' :: cs).rdropWhile (· == '\n') with
  | nil => exact ⟨[], rfl⟩
  | cons d ds =>
    rw [hd] at hp
    obtain ⟨rfl, -⟩ := List.cons_prefix_cons.mp hp
    exact ⟨_, rfl⟩

/-- The line feed at the end of a file takes nothing from a block that ends with something else. -/
theorem stands_endLine {block text : String} (h : Stands block text)
    (hl : ∃ cs c, block.toList = cs ++ [c] ∧ c ≠ '\n') : Stands block (endLine text) := by
  obtain ⟨before, after, rfl⟩ := h
  obtain ⟨cs, c, hb, hc⟩ := hl
  obtain ⟨ds, hd⟩ := exists_rdropWhile_feed after.toList
  refine ⟨before, String.ofList ds, String.toList_injective ?_⟩
  have htext : (before ++ "\n" ++ (block ++ "\n" ++ after)).toList =
      (before.toList ++ '\n' :: cs) ++ c :: '\n' :: after.toList := by
    simp [hb]
  have hdrop := rdropWhile_append_cons (p := (· == '\n')) (by simpa using hc)
    (before.toList ++ '\n' :: cs) ('\n' :: after.toList)
  unfold endLine
  rw [htext]
  unfold List.rdropWhile at hdrop hd
  rw [hdrop, String.toList_ofList, List.append_assoc, List.cons_append, hd]
  simp [hb]

/-! ### Functions in types and files -/

/-- The function stands in the type, below so many types with this one. -/
inductive TypeDecl.Holds : TypeDecl → ℕ → FunctionDecl → Prop where
  | function {t : TypeDecl} {f : FunctionDecl} : f ∈ t.functions → TypeDecl.Holds t 1 f
  | nested {t u : TypeDecl} {n : ℕ} {f : FunctionDecl} : u ∈ t.nested → TypeDecl.Holds u n f →
      TypeDecl.Holds t (n + 1) f

inductive SourceFile.Holds (file : SourceFile) : ℕ → FunctionDecl → Prop where
  | function {f : FunctionDecl} : f ∈ file.functions → SourceFile.Holds file 0 f
  | type {t : TypeDecl} {n : ℕ} {f : FunctionDecl} : t ∈ file.types → t.Holds n f →
      SourceFile.Holds file n f

theorem TypeDecl.Holds.stands {t : TypeDecl} {n : ℕ} {f : FunctionDecl} (h : t.Holds n f)
    {text : String} (ht : t.textWith classText = .ok text) :
    ∃ inner, f.textWith classText = .ok inner ∧ Stands (indentedBy n inner) text ∧
      Opens (indentedBy n inner) := by
  induction h generalizing text with
  | function hf =>
    obtain ⟨properties, functions, nested, -, hfs, -, rfl⟩ := TypeDecl.textWith_eq_ok.mp ht
    obtain ⟨inner, hm, hi⟩ := exists_mem_right (functionTextsWith_eq_ok.mp hfs) hf
    exact ⟨inner, hi, stands_of_mem indent (List.mem_append_left nested hm) _ _,
      opens_indent inner⟩
  | nested hu _ ih =>
    obtain ⟨properties, functions, nested, -, -, hns, rfl⟩ := TypeDecl.textWith_eq_ok.mp ht
    obtain ⟨utext, hm, hut⟩ := exists_mem_right (typeTextsWith_eq_ok.mp hns) hu
    obtain ⟨inner, hi, hs, ho⟩ := ih hut
    exact ⟨inner, hi, (hs.indent ho).trans
      (stands_of_mem indent (List.mem_append_right functions hm) _ _), opens_indent _⟩

/-- The block of a function with these statements, below so many types. -/
def FunctionDecl.blockWith (classText : ClassName → String) (f : FunctionDecl) (n : ℕ)
    (statements : List String) : String :=
  indentedBy n (f.leadWith classText ++ " \x7b") ++ "\n" ++
    (stacked statements ++ (String.ofList (spaces (4 * n)) ++ "\x7d"))

theorem FunctionDecl.toList_blockWith (f : FunctionDecl) (n : ℕ) (statements : List String) :
    ∃ cs, (f.blockWith classText n statements).toList = cs ++ ['\x7d'] := by
  refine ⟨(indentedBy n (f.leadWith classText ++ " \x7b") ++ "\n" ++
    (stacked statements ++ String.ofList (spaces (4 * n)))).toList, ?_⟩
  unfold blockWith
  simp

theorem indentedBy_brace (n : ℕ) :
    indentedBy n "\x7d" = String.ofList (spaces (4 * n)) ++ "\x7d" := by
  have hbrace : ∀ c ∈ "\x7d".toList, isLineBreak c = false := by
    intro c hc
    cases List.mem_singleton.mp hc
    rfl
  refine String.toList_injective ?_
  rw [toList_indentedBy_of_line hbrace]
  simp

theorem bodyText_eq_stacked (statements : List String) :
    bodyText statements = stacked (statements.map indent) := by
  rw [stacked, List.map_map]
  rfl

theorem FunctionDecl.indentedBy_text {f : FunctionDecl} {text : String}
    (h : f.textWith classText = .ok text) (n : ℕ) :
    ∃ statements, statementTextsWith classText f.statements = .ok statements ∧
      indentedBy n text = f.blockWith classText n (statements.map (indentedBy (n + 1))) := by
  obtain ⟨statements, hs, rfl⟩ := textWith_eq_ok.mp h
  refine ⟨statements, hs, ?_⟩
  have hopens : ∀ b ∈ statements.map indent, Opens b := by
    intro b hb
    obtain ⟨s, _, rfl⟩ := List.mem_map.mp hb
    exact opens_indent s
  have hbrace : Opens "\x7d" := ⟨'\x7d', [], rfl, rfl⟩
  have hblock := indentedBy_stacked hopens hbrace (f.leadWith classText ++ " \x7b") n
  have hmap : (statements.map indent).map (indentedBy n) =
      statements.map (indentedBy (n + 1)) := by
    rw [List.map_map]
    exact List.map_congr_left fun s _ => indentedBy_indent n s
  rw [hmap, indentedBy_brace] at hblock
  rw [bodyText_eq_stacked, line, blockWith, ← hblock]
  simp only [String.append_assoc]

/-- A function of a file stands in its text, indented for the types around it. -/
theorem SourceFile.Holds.stands {file : SourceFile} {n : ℕ} {f : FunctionDecl}
    (h : file.Holds n f) {text : String} (ht : file.textWith classText = .ok text) :
    ∃ statements, statementTextsWith classText f.statements = .ok statements ∧
      Stands (f.blockWith classText n (statements.map (indentedBy (n + 1)))) text := by
  obtain ⟨types, functions, hts, hfs, rfl⟩ := SourceFile.textWith_eq_ok.mp ht
  suffices ∃ inner, f.textWith classText = .ok inner ∧ ∀ lead, Stands (indentedBy n inner)
      (lead ++ String.join ((file.aliases.map (·.textWith classText) ++ types ++ functions).map
        member)) by
    obtain ⟨inner, hi, hs⟩ := this
    obtain ⟨statements, hst, he⟩ := FunctionDecl.indentedBy_text hi n
    refine ⟨statements, hst, stands_endLine (he ▸ hs file.lead) ?_⟩
    obtain ⟨cs, hcs⟩ := f.toList_blockWith n _
    exact ⟨cs, '\x7d', hcs, by decide⟩
  have hmember : ∀ {s}, s ∈ file.aliases.map (·.textWith classText) ++ types ++ functions →
      ∀ lead, Stands s (lead ++ String.join
        ((file.aliases.map (·.textWith classText) ++ types ++ functions).map member)) := by
    intro s hs lead
    have hstands := stands_of_mem id hs lead ""
    rwa [String.append_empty] at hstands
  cases h with
  | function hf =>
    obtain ⟨inner, hm, hi⟩ := exists_mem_right (functionTextsWith_eq_ok.mp hfs) hf
    exact ⟨inner, hi, hmember (List.mem_append_right _ hm)⟩
  | type hm hh =>
    obtain ⟨ttext, hm, htt⟩ := exists_mem_right (typeTextsWith_eq_ok.mp hts) hm
    obtain ⟨inner, hi, hs, _⟩ := hh.stands htt
    refine ⟨inner, hi, fun lead => hs.trans (hmember ?_ lead)⟩
    exact List.mem_append_left _ (List.mem_append_right _ hm)

namespace SourceFile

/-- Between the braces of a function, wherever it stands in a file, are the texts of its statements
in order, each with a line feed behind it and indented for the function and the types around it.
That changes nothing but the spaces before lines exactly where only line feeds end the lines of the
statements. -/
theorem statements_kept_iff {file : SourceFile} {n : ℕ} {f : FunctionDecl} {text : String}
    (h : file.text = .ok text) (hf : file.Holds n f) :
    ∃ statements, statementTextsWith ClassName.rendered f.statements = .ok statements ∧
      Stands (f.blockWith ClassName.rendered n (statements.map (indentedBy (n + 1)))) text ∧
      (List.Forall₂ Shifted statements (statements.map (indentedBy (n + 1))) ↔
        ∀ s ∈ statements, FeedsOnly s) := by
  obtain ⟨statements, hs, hstands⟩ := hf.stands h
  refine ⟨statements, hs, hstands, ?_⟩
  rw [List.forall₂_map_right_iff, List.forall₂_same]
  exact forall₂_congr fun s _ => shifted_indentedBy_succ_iff

def branchFunction : FunctionDecl :=
  { name := "say", statements := [⟨"if (%N)\n\n    println(%S)", [.text "on", .text "a\nb"]⟩] }

def branchFile : SourceFile :=
  { className := ⟨"io.x", [], "A", false⟩,
    types := [{ name := "A", nested := [{ name := "B", functions := [branchFunction] }] }] }

theorem statements_kept_iff_branchFile : ∃ text, branchFile.text = .ok text ∧
    branchFile.Holds 2 branchFunction ∧
    ∃ statements, statementTextsWith ClassName.rendered branchFunction.statements =
        .ok statements ∧
      Stands (branchFunction.blockWith ClassName.rendered 2
        (statements.map (indentedBy (2 + 1)))) text ∧
      (List.Forall₂ Shifted statements (statements.map (indentedBy (2 + 1))) ↔
        ∀ s ∈ statements, FeedsOnly s) := by
  have hy : yields branchFile.text (fun _ => true) = true := by decide +kernel
  obtain ⟨text, h, _⟩ := exists_of_yields hy
  have hf : branchFile.Holds 2 branchFunction :=
    .type (List.mem_singleton_self _)
      (.nested (List.mem_singleton_self _) (.function (List.mem_singleton_self _)))
  exact ⟨text, h, hf, statements_kept_iff h hf⟩

/-- The literal in the statement has a line separator, which is a line break. -/
def separatedFunction : FunctionDecl :=
  { name := "say", statements := [⟨"println(%S)", [.text "a\u2028b"]⟩] }

def separatedFile : SourceFile :=
  { className := ⟨"io.x", [], "A", false⟩, functions := [separatedFunction] }

/-- No text that differs from the statement in spaces only stands between the braces. -/
theorem statements_not_kept_separatedFile : ∃ statements text,
    separatedFile.Holds 0 separatedFunction ∧ separatedFile.text = .ok text ∧
    statementTextsWith ClassName.rendered separatedFunction.statements = .ok statements ∧
    ¬ ∃ kept, List.Forall₂ Shifted statements kept ∧
      Stands (separatedFunction.blockWith ClassName.rendered 0 kept) text := by
  have hy : yields separatedFile.text (fun text => '\u2028' ∉ text.toList) = true := by
    decide +kernel
  have hs : yields (statementTextsWith ClassName.rendered separatedFunction.statements)
      (fun statements => statements.any fun s => '\u2028' ∈ s.toList) = true := by decide +kernel
  obtain ⟨text, h, hy⟩ := exists_of_yields hy
  obtain ⟨statements, hstatements, hs⟩ := exists_of_yields hs
  obtain ⟨s, hm, hc⟩ := List.any_eq_true.mp hs
  refine ⟨statements, text, .function (List.mem_singleton_self _), h, hstatements, ?_⟩
  rintro ⟨kept, hkept, before, after, rfl⟩
  obtain ⟨k, hk, hshift⟩ := exists_mem_right hkept hm
  refine of_decide_eq_true hy ?_
  have hck := mem_stacked hk (hshift.mem (of_decide_eq_true hc) (by decide))
  simp [FunctionDecl.blockWith, hck]

end SourceFile

end FluentKotlin
