import FluentKotlin.Proofs.Kotlin.Formatted
import FluentKotlin.Proofs.Kotlin.Layout

/-! # Code that fits its holes

The arguments of a code block fit when there is one for each hole of its format, of the kind that
the hole is for, and when the blocks among them fit as well. Such a block has a text, and a file has
one where all its blocks fit.
-/

namespace FluentKotlin

/-- The kinds of arguments that each hole is for. -/
inductive Argument.Suits : Argument → Hole → Prop where
  | type (t : TypeName) : Suits (.type t) .type
  | name (s : String) : Suits (.text s) .name
  | declaration (name shown : String) : Suits (.declaration (some name) shown) .name
  | string (s : String) : Suits (.text s) .string
  | verbatim (s : String) : Suits (.text s) .literal
  | code (b : CodeBlock) : Suits (.code b) .literal
  | arguments (bs : List CodeBlock) : Suits (.arguments bs) .literal

mutual

/-- Every hole has an argument of its kind, at every depth, and no argument is left over. -/
def CodeBlock.Fits : CodeBlock → Prop
  | ⟨format, arguments⟩ =>
    List.Forall₂ Argument.Suits arguments (holes (pieces format.toList)) ∧ ArgumentsFit arguments

def ArgumentsFit : List Argument → Prop
  | [] => True
  | a :: as => a.Fits ∧ ArgumentsFit as

def Argument.Fits : Argument → Prop
  | .scalar _ => True
  | .type _ => True
  | .code block => block.Fits
  | .arguments blocks => CodeFits blocks
  | .declaration _ _ => True

def CodeFits : List CodeBlock → Prop
  | [] => True
  | b :: bs => b.Fits ∧ CodeFits bs

end

theorem codeFits_iff {bs : List CodeBlock} : CodeFits bs ↔ ∀ b ∈ bs, b.Fits := by
  induction bs with
  | nil => exact iff_of_true trivial (List.forall_mem_nil _)
  | cons b bs ih => exact (and_congr_right fun _ => ih).trans List.forall_mem_cons.symm

theorem argumentsFit_iff {as : List Argument} : ArgumentsFit as ↔ ∀ a ∈ as, a.Fits := by
  induction as with
  | nil => exact iff_of_true trivial (List.forall_mem_nil _)
  | cons a as ih => exact (and_congr_right fun _ => ih).trans List.forall_mem_cons.symm

theorem CodeBlock.fits_iff {format : String} {arguments : List Argument} :
    CodeBlock.Fits ⟨format, arguments⟩ ↔
      List.Forall₂ Argument.Suits arguments (holes (pieces format.toList)) ∧
        ∀ a ∈ arguments, a.Fits :=
  and_congr_right fun _ => argumentsFit_iff

theorem Argument.fits_text (s : String) : (Argument.text s).Fits := trivial

theorem Argument.fits_type (t : TypeName) : (Argument.type t).Fits := trivial

theorem Argument.fits_code {b : CodeBlock} : (Argument.code b).Fits ↔ b.Fits := Iff.rfl

theorem Argument.fits_arguments {bs : List CodeBlock} :
    (Argument.arguments bs).Fits ↔ ∀ b ∈ bs, b.Fits := codeFits_iff

theorem Argument.fits_declaration (name : Option String) (shown : String) :
    (Argument.declaration name shown).Fits := trivial

variable {classText : ClassName → String}

namespace CodeBlock

variable {b c : CodeBlock}

theorem Fits.matched (h : b.Fits) : b.Matched := by
  obtain ⟨format, arguments⟩ := b
  obtain ⟨hf, _⟩ := fits_iff.mp h
  have hsuits : ∀ {k a}, (k, a) ∈ (mk format arguments).placed → a.Suits k :=
    (List.forall₂_iff_zip.mp hf.flip).2
  refine ⟨hf.length_eq, fun a ha => ?_, fun a ha => ?_⟩
  · cases hsuits ha with
    | type t => exact ⟨t, rfl⟩
  · cases hsuits ha with
    | name s => exact Or.inl ⟨s, rfl⟩
    | declaration name shown => exact Or.inr ⟨name, shown, rfl⟩

theorem Fits.of_mem_inner (h : b.Fits) (hc : c ∈ b.inner) : c.Fits := by
  obtain ⟨a, ha, hc⟩ := mem_inner.mp hc
  obtain ⟨format, arguments⟩ := b
  have hfits := (fits_iff.mp h).2 a (List.of_mem_zip ha).2
  cases a with
  | scalar | type | declaration => cases hc
  | code d =>
    obtain rfl := List.mem_singleton.mp hc
    exact Argument.fits_code.mp hfits
  | arguments bs => exact Argument.fits_arguments.mp hfits c hc

/-- A block that fits has a text. -/
theorem Fits.exists_formattedWith (h : b.Fits) :
    ∃ text, b.formattedWith classText = .ok text := by
  refine exists_formattedWith_iff_levels.mpr fun d hd => ?_
  have hfits : d.Fits := by
    induction hd with
    | refl => exact h
    | tail _ hc ih => exact ih.of_mem_inner hc
  exact (matched_iff.mp hfits.matched).1

end CodeBlock

def PropertyDecl.code (p : PropertyDecl) : List CodeBlock := p.initializer.toList

mutual

def TypeDecl.code : TypeDecl → List CodeBlock
  | ⟨_, _, _, _, properties, functions, nested, _⟩ =>
    properties.flatMap PropertyDecl.code ++ functions.flatMap FunctionDecl.statements
      ++ nestedCode nested

def nestedCode : List TypeDecl → List CodeBlock
  | [] => []
  | t :: ts => t.code ++ nestedCode ts

end

def SourceFile.code (f : SourceFile) : List CodeBlock :=
  f.types.flatMap TypeDecl.code ++ f.functions.flatMap FunctionDecl.statements

theorem nestedCode_eq_flatMap (ts : List TypeDecl) : nestedCode ts = ts.flatMap TypeDecl.code := by
  induction ts with
  | nil => simp [nestedCode]
  | cons t ts ih => simp [nestedCode, ih]

theorem TypeDecl.code_eq (t : TypeDecl) :
    t.code = t.properties.flatMap PropertyDecl.code ++
      t.functions.flatMap FunctionDecl.statements ++ t.nested.flatMap TypeDecl.code := by
  cases t
  rw [code, nestedCode_eq_flatMap]

theorem PropertyDecl.exists_textWith {p : PropertyDecl} (h : ∀ b ∈ p.code, b.Fits) :
    ∃ text, p.textWith classText = .ok text := by
  unfold textWith
  cases hi : p.initializer with
  | none => exact ⟨_, rfl⟩
  | some b =>
    obtain ⟨code, hc⟩ := (h b (by simp [code, hi])).exists_formattedWith
    rw [initializerTextWith, hc]
    exact ⟨_, rfl⟩

theorem exists_statementTextsWith {bs : List CodeBlock} (h : ∀ b ∈ bs, b.Fits) :
    ∃ texts, statementTextsWith classText bs = .ok texts := by
  obtain ⟨texts, ht⟩ := exists_forall₂_iff.mpr fun b hb => (h b hb).exists_formattedWith
  exact ⟨texts, statementTextsWith_eq_ok.mpr ht⟩

theorem FunctionDecl.exists_textWith {f : FunctionDecl} (h : ∀ b ∈ f.statements, b.Fits) :
    ∃ text, f.textWith classText = .ok text := by
  obtain ⟨texts, ht⟩ := exists_statementTextsWith h
  unfold textWith
  rw [ht]
  exact ⟨_, rfl⟩

theorem exists_propertyTextsWith {ps : List PropertyDecl}
    (h : ∀ b ∈ ps.flatMap PropertyDecl.code, b.Fits) :
    ∃ texts, propertyTextsWith classText ps = .ok texts := by
  obtain ⟨texts, ht⟩ := exists_forall₂_iff.mpr fun p hp =>
    PropertyDecl.exists_textWith fun b hb => h b (List.mem_flatMap_of_mem hp hb)
  exact ⟨texts, propertyTextsWith_eq_ok.mpr ht⟩

theorem exists_functionTextsWith {fs : List FunctionDecl}
    (h : ∀ b ∈ fs.flatMap FunctionDecl.statements, b.Fits) :
    ∃ texts, functionTextsWith classText fs = .ok texts := by
  obtain ⟨texts, ht⟩ := exists_forall₂_iff.mpr fun f hf =>
    FunctionDecl.exists_textWith fun b hb => h b (List.mem_flatMap_of_mem hf hb)
  exact ⟨texts, functionTextsWith_eq_ok.mpr ht⟩

theorem exists_typeTextsWith {ts : List TypeDecl}
    (h : ∀ t ∈ ts, ∃ text, t.textWith classText = .ok text) :
    ∃ texts, typeTextsWith classText ts = .ok texts := by
  obtain ⟨texts, ht⟩ := exists_forall₂_iff.mpr h
  exact ⟨texts, typeTextsWith_eq_ok.mpr ht⟩

theorem TypeDecl.exists_textWith {t : TypeDecl} (h : ∀ b ∈ t.code, b.Fits) :
    ∃ text, t.textWith classText = .ok text := by
  induction t using nested_induction with
  | step t ih =>
    rw [code_eq, List.forall_mem_append, List.forall_mem_append] at h
    obtain ⟨⟨hp, hf⟩, hn⟩ := h
    obtain ⟨properties, hp⟩ := exists_propertyTextsWith hp
    obtain ⟨functions, hf⟩ := exists_functionTextsWith hf
    obtain ⟨nested, hn⟩ := exists_typeTextsWith fun u hu =>
      ih u hu fun b hb => hn b (List.mem_flatMap_of_mem hu hb)
    exact ⟨_, textWith_eq_ok.mpr ⟨properties, functions, nested, hp, hf, hn, rfl⟩⟩

theorem SourceFile.exists_textWith {f : SourceFile} (h : ∀ b ∈ f.code, b.Fits) :
    ∃ text, f.textWith classText = .ok text := by
  unfold code at h
  rw [List.forall_mem_append] at h
  obtain ⟨types, ht⟩ := exists_typeTextsWith fun t ht =>
    TypeDecl.exists_textWith fun b hb => h.1 b (List.mem_flatMap_of_mem ht hb)
  obtain ⟨functions, hf⟩ := exists_functionTextsWith h.2
  unfold textWith
  rw [ht, hf]
  exact ⟨_, rfl⟩

end FluentKotlin
