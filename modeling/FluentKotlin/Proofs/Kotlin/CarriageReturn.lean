import FluentKotlin.Proofs.Kotlin.Layout

/-! # Carriage returns in the text of a file

Everything that is indented is cut into lines and joined with line feeds, and so is the
documentation of a function. So a carriage return is in the text of a file exactly where one is in
what is printed beside them: in the head of the file, the heads of its types and functions, and the
properties of its types. The text ends with one line feed in any case.
-/

namespace FluentKotlin

open Text

/-- A carriage return is in the text. -/
def Returns (s : String) : Prop := '\r' ∈ s.toList

instance (s : String) : Decidable (Returns s) := inferInstanceAs (Decidable ('\r' ∈ s.toList))

@[simp] theorem returns_append {s t : String} : Returns (s ++ t) ↔ Returns s ∨ Returns t := by
  simp [Returns]

@[simp] theorem returns_join {ss : List String} :
    Returns (String.join ss) ↔ ∃ s ∈ ss, Returns s := by
  simp [Returns, String.toList_join]

theorem returns_intercalate {sep : String} (hs : ¬ Returns sep) {ss : List String} :
    Returns (String.intercalate sep ss) ↔ ∃ s ∈ ss, Returns s := by
  induction ss with
  | nil => simp [Returns]
  | cons s ss ih =>
    by_cases hn : ss = []
    · subst hn
      simp
    · rw [String.intercalate_cons_of_ne_nil hn, returns_append, returns_append, or_iff_left hs, ih,
        List.exists_mem_cons_iff]

@[simp] theorem not_returns_indent (s : String) : ¬ Returns (indent s) := by
  intro h
  have hn := feedsOnly_indent s '\r' h rfl
  cases hn

@[simp] theorem returns_line {s : String} : Returns (line s) ↔ Returns s := by
  simp [line, Returns]

@[simp] theorem returns_member {s : String} : Returns (member s) ↔ Returns s := by
  simp [member, Returns, line]

@[simp] theorem returns_propertyLine {s : String} : Returns (propertyLine s) ↔ Returns s := by
  simp [propertyLine, Returns, line, indentation]

theorem returns_packageText {package : String} :
    Returns (packageText package) ↔ Returns package := by
  unfold packageText
  by_cases h : package = ""
  · rw [if_pos h, h]
  · rw [if_neg h, returns_member, returns_append]
    exact or_iff_right (by decide)

theorem returns_importText {imports : List Import} :
    Returns (importText imports) ↔ ∃ i ∈ imports, Returns i.package ∨ Returns i.name := by
  have hempty : ¬ Returns "" := by decide
  have himport : ¬ Returns "import " := by decide
  have hdot : ¬ Returns "." := by decide
  cases imports with
  | nil => exact iff_of_false hempty (by simp)
  | cons i is => simp [importText, hempty, himport, hdot]

variable {classText : ClassName → String}

theorem returns_annotationTextWith {annotations : List ClassName} :
    Returns (annotationTextWith classText annotations) ↔
      ∃ c ∈ annotations, Returns (classText c) := by
  have hat : ¬ Returns "@" := by decide
  simp [annotationTextWith, hat]

theorem not_returns_of_mem_lines {s l : String} (h : l ∈ Text.lines s) : ¬ Returns l := by
  obtain ⟨cs, hcs, rfl⟩ := List.mem_map.mp h
  intro hr
  rw [Returns, String.toList_ofList] at hr
  have hb := isLineBreak_of_mem_lineChars hcs '\r' hr
  cases hb

theorem not_returns_docText (doc : Option String) : ¬ Returns (docText doc) := by
  have hempty : ¬ Returns "" := by decide
  cases doc with
  | none => exact hempty
  | some doc =>
    have hline : ∀ l ∈ Text.lines doc, ¬ Returns (docLine l) := by
      have hstar : ¬ Returns " *" := by decide
      have hlead : ¬ Returns " * " := by decide
      intro l hl
      rw [docLine, returns_line]
      split
      · exact hstar
      · rw [returns_append, not_or]
        exact ⟨hlead, not_returns_of_mem_lines hl⟩
    have hopen : ¬ Returns "/**" := by decide
    have hclose : ¬ Returns " */" := by decide
    unfold docText
    dsimp only
    split
    · exact hempty
    · simpa [hopen, hclose] using hline

theorem not_returns_bodyText (statements : List String) : ¬ Returns (bodyText statements) := by
  simp [bodyText]

theorem not_returns_modifierText (ms : List Modifier) : ¬ Returns (modifierText ms) := by
  have hword : ∀ m : Modifier, ¬ Returns (m.word ++ " ") := by
    intro m
    cases m <;> decide
  rw [modifierText, returns_join]
  rintro ⟨s, hs, hr⟩
  obtain ⟨m, _, rfl⟩ := List.mem_map.mp hs
  exact hword m hr

namespace ClassName

theorem returns_localName {c : ClassName} :
    Returns c.localName ↔ ∃ name ∈ c.simpleNames, Returns name :=
  returns_intercalate (by decide)

theorem returns_rendered {c : ClassName} : Returns c.rendered ↔ Returns c.localName := by
  have hmark : ∀ b, ¬ Returns (nullMark b) := by decide
  rw [rendered, returns_append, or_iff_left (hmark _)]

theorem returns_canonicalName {c : ClassName} :
    Returns c.canonicalName ↔ Returns c.package ∨ Returns c.localName := by
  have hempty : ¬ Returns "" := by decide
  have hdot : ¬ Returns "." := by decide
  unfold canonicalName
  by_cases h : c.package = ""
  · rw [if_pos h, h, or_iff_right hempty]
  · rw [if_neg h, returns_append, returns_append, or_iff_left hdot]

end ClassName

/-- The escapes of a literal leave a carriage return as it is. -/
theorem return_mem_escapeLiteral {c : Char} : '\r' ∈ escapeLiteral c ↔ c = '\r' := by
  unfold escapeLiteral
  cases c == '\\' || c == Text.doubleQuote || c == '$' with
  | true => simp [eq_comm]
  | false =>
    cases hn : c == '\n' with
    | true =>
      rw [beq_iff_eq.mp hn]
      decide
    | false =>
      cases ht : c == '\t' with
      | true =>
        rw [beq_iff_eq.mp ht]
        decide
      | false => simp [eq_comm]

theorem returns_stringLiteral {s : String} : Returns (stringLiteral s) ↔ Returns s := by
  have hquote : ¬ '\r' = Text.doubleQuote := by decide
  unfold Returns stringLiteral
  rw [String.toList_ofList]
  simp [hquote, return_mem_escapeLiteral]

/-! ### Where carriage returns come from -/

inductive FunctionDecl.Exposes (classText : ClassName → String) (f : FunctionDecl) : Prop where
  | marked {c : ClassName} : c ∈ f.annotations → Returns (classText c) →
      FunctionDecl.Exposes classText f
  | signature : Returns (f.signatureWith classText) → FunctionDecl.Exposes classText f

inductive TypeDecl.Exposes (classText : ClassName → String) (t : TypeDecl) : Prop where
  | marked {c : ClassName} : c ∈ t.annotations → Returns (classText c) →
      TypeDecl.Exposes classText t
  | header : Returns (typeHeaderWith classText t.name t.superType t.typeVariables t.modifiers) →
      TypeDecl.Exposes classText t
  | property {p : PropertyDecl} {text : String} : p ∈ t.properties →
      p.textWith classText = .ok text → Returns text → TypeDecl.Exposes classText t

/-- A carriage return is in what the file prints as it is. -/
inductive SourceFile.Exposes (classText : ClassName → String) (file : SourceFile) : Prop where
  | package : Returns file.package → SourceFile.Exposes classText file
  | imported {i : Import} : i ∈ file.imports → Returns i.package ∨ Returns i.name →
      SourceFile.Exposes classText file
  | alias {a : AliasDecl} : a ∈ file.aliases → Returns (a.textWith classText) →
      SourceFile.Exposes classText file
  | type {t : TypeDecl} : t ∈ file.types → t.Exposes classText → SourceFile.Exposes classText file
  | function {f : FunctionDecl} : f ∈ file.functions → f.Exposes classText →
      SourceFile.Exposes classText file

theorem FunctionDecl.returns_iff {f : FunctionDecl} {text : String}
    (h : f.textWith classText = .ok text) : Returns text ↔ f.Exposes classText := by
  obtain ⟨statements, _, rfl⟩ := textWith_eq_ok.mp h
  have hopen : ¬ Returns " \x7b" := by decide
  have hclose : ¬ Returns "\x7d" := by decide
  have htext : Returns (f.leadWith classText ++ line " \x7b" ++ bodyText statements ++ "\x7d") ↔
      (∃ c ∈ f.annotations, Returns (classText c)) ∨ Returns (f.signatureWith classText) := by
    simp only [leadWith, returns_append, returns_line, not_returns_docText, hopen,
      not_returns_bodyText, hclose, or_false, false_or, returns_annotationTextWith]
  rw [htext]
  constructor
  · rintro (⟨c, hc, hr⟩ | hr)
    · exact .marked hc hr
    · exact .signature hr
  · rintro (⟨hc, hr⟩ | hr)
    · exact Or.inl ⟨_, hc, hr⟩
    · exact Or.inr hr

theorem TypeDecl.returns_iff {t : TypeDecl} {text : String}
    (h : t.textWith classText = .ok text) : Returns text ↔ t.Exposes classText := by
  obtain ⟨properties, functions, nested, hp, _, _, rfl⟩ := textWith_eq_ok.mp h
  have hopen : ¬ Returns " \x7b" := by decide
  have hclose : ¬ Returns "\x7d" := by decide
  have htext : Returns (t.leadWith classText ++ String.join (properties.map propertyLine)
      ++ String.join ((functions ++ nested).map fun s => member (Text.indent s)) ++ "\x7d") ↔
      (∃ c ∈ t.annotations, Returns (classText c)) ∨
        Returns (typeHeaderWith classText t.name t.superType t.typeVariables t.modifiers) ∨
        ∃ s ∈ properties, Returns s := by
    simp [leadWith, returns_annotationTextWith, hopen, hclose, or_assoc]
  have hprop : (∃ s ∈ properties, Returns s) ↔
      ∃ p ∈ t.properties, ∃ s, p.textWith classText = .ok s ∧ Returns s := by
    refine exists_mem_iff_of_forall₂ (propertyTextsWith_eq_ok.mp hp) fun p s hs => ?_
    rw [hs]
    simp
  rw [htext, hprop]
  constructor
  · rintro (⟨c, hc, hr⟩ | hr | ⟨p, hm, s, hs, hr⟩)
    · exact .marked hc hr
    · exact .header hr
    · exact .property hm hs hr
  · rintro (⟨hc, hr⟩ | hr | ⟨hm, hs, hr⟩)
    · exact Or.inl ⟨_, hc, hr⟩
    · exact Or.inr (Or.inl hr)
    · exact Or.inr (Or.inr ⟨_, hm, _, hs, hr⟩)

/-! ### The end of a file -/

def EndsOnce (s : String) : Prop := ∃ cs, s.toList = cs ++ ['\n'] ∧ cs.getLast? ≠ some '\n'

theorem endsOnce_endLine (s : String) : EndsOnce (endLine s) := by
  refine ⟨s.toList.rdropWhile (· == '\n'), String.toList_ofList, ?_⟩
  intro h
  have hne : s.toList.rdropWhile (· == '\n') ≠ [] := by
    intro hn
    rw [hn] at h
    cases h
  have hlast := List.rdropWhile_last_not (· == '\n') s.toList hne
  rw [List.getLast?_eq_some_getLast hne, Option.some.injEq] at h
  exact hlast (beq_iff_eq.mpr h)

theorem returns_endLine {s : String} : Returns (endLine s) ↔ Returns s := by
  have hfeed : ¬ '\r' ∈ s.toList.rtakeWhile (· == '\n') := by
    intro h
    have hp := List.mem_rtakeWhile_imp h
    cases hp
  have hend : (endLine s).toList = s.toList.rdropWhile (· == '\n') ++ ['\n'] :=
    String.toList_ofList
  unfold Returns
  rw [hend]
  nth_rewrite 2 [← List.rdropWhile_append_rtakeWhile (p := (· == '\n')) (l := s.toList)]
  rw [List.mem_append, List.mem_append, or_iff_left hfeed]
  exact or_iff_left (by decide)

/-- A carriage return is in the text of a file exactly where the file exposes one, and the text
ends with one line feed. -/
theorem SourceFile.returns_iff {file : SourceFile} {text : String}
    (h : file.textWith classText = .ok text) :
    (Returns text ↔ file.Exposes classText) ∧ EndsOnce text := by
  obtain ⟨types, functions, ht, hf, rfl⟩ := textWith_eq_ok.mp h
  refine ⟨?_, endsOnce_endLine _⟩
  have hheader : ¬ Returns generatedHeader := by decide
  have htypes := exists_mem_iff_of_forall₂ (typeTextsWith_eq_ok.mp ht)
    fun t s hs => TypeDecl.returns_iff hs
  have hfunctions := exists_mem_iff_of_forall₂ (functionTextsWith_eq_ok.mp hf)
    fun f s hs => FunctionDecl.returns_iff hs
  have htext : Returns (file.lead ++ String.join
      ((file.aliases.map (·.textWith classText) ++ types ++ functions).map member)) ↔
      Returns file.package ∨ (∃ i ∈ file.imports, Returns i.package ∨ Returns i.name) ∨
        (∃ a ∈ file.aliases, Returns (a.textWith classText)) ∨
        (∃ s ∈ types, Returns s) ∨ ∃ s ∈ functions, Returns s := by
    simp [lead, returns_packageText, returns_importText, hheader, or_assoc]
  rw [returns_endLine, htext, htypes, hfunctions]
  constructor
  · rintro (hr | ⟨i, hi, hr⟩ | ⟨a, ha, hr⟩ | ⟨t, ht, hr⟩ | ⟨f, hf, hr⟩)
    · exact .package hr
    · exact .imported hi hr
    · exact .alias ha hr
    · exact .type ht hr
    · exact .function hf hr
  · rintro (hr | ⟨hi, hr⟩ | ⟨ha, hr⟩ | ⟨ht, hr⟩ | ⟨hf, hr⟩)
    · exact Or.inl hr
    · exact Or.inr (Or.inl ⟨_, hi, hr⟩)
    · exact Or.inr (Or.inr (Or.inl ⟨_, ha, hr⟩))
    · exact Or.inr (Or.inr (Or.inr (Or.inl ⟨_, ht, hr⟩)))
    · exact Or.inr (Or.inr (Or.inr (Or.inr ⟨_, hf, hr⟩)))

end FluentKotlin
