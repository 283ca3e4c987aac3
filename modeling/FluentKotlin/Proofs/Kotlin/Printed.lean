import FluentKotlin.Kotlin.Layout
import FluentKotlin.Proofs.Kotlin.Drafts
import FluentKotlin.Proofs.Kotlin.SimpleNames

/-! # Printed classes

A file prints a class when its text changes with the text of the class. The text of a declaration
depends only on the texts of the classes that it refers to, with or without a null mark. So the
imports of a file, which are computed from the references, are complete for what it prints.
-/

namespace FluentKotlin

/-- Both texts are the same for each class of the list, with and without a null mark. -/
def AgreeOn (references : List ClassName) (f g : ClassName → String) : Prop :=
  ∀ c ∈ references, ∀ nullable, f (c.withNullable nullable) = g (c.withNullable nullable)

variable {f g : ClassName → String}

theorem agreeOn_append {cs es : List ClassName} :
    AgreeOn (cs ++ es) f g ↔ AgreeOn cs f g ∧ AgreeOn es f g := List.forall_mem_append

theorem agreeOn_cons {c : ClassName} {cs : List ClassName} :
    AgreeOn (c :: cs) f g ↔
      (∀ nullable, f (c.withNullable nullable) = g (c.withNullable nullable)) ∧
        AgreeOn cs f g := List.forall_mem_cons

theorem AgreeOn.of_mem_flatMap {α : Type} {references : α → List ClassName} {as : List α} {a : α}
    (h : AgreeOn (as.flatMap references) f g) (ha : a ∈ as) : AgreeOn (references a) f g :=
  fun c hc => h c (List.mem_flatMap.mpr ⟨a, ha, hc⟩)

theorem AgreeOn.text_eq {c : ClassName} {cs : List ClassName} (h : AgreeOn cs f g)
    (hc : c ∈ cs) : f c = g c := h c hc c.nullable

namespace TypeName

mutual

theorem textWith_congr : ∀ {t : TypeName}, AgreeOn t.references f g → t.textWith f = t.textWith g
  | named c, h => by
    rw [references] at h
    rw [textWith, textWith]
    exact h _ (List.mem_singleton_self _) c.nullable
  | applied raw arguments nullable, h => by
    rw [references, agreeOn_cons] at h
    have hraw : f raw = g raw := h.1 raw.nullable
    rw [textWith, textWith, hraw, textsWith_congr h.2]
  | typeVariable name nullable, _ => by rw [textWith, textWith]
  | lambda receiver parameters returns nullable, h => by
    rw [references, agreeOn_append, agreeOn_append] at h
    rw [textWith, textWith, receiverTextWith_congr h.1, textsWith_congr h.2.1,
      returnTextWith_congr h.2.2]

theorem textsWith_congr : ∀ {ts : List TypeName}, AgreeOn (referencesAll ts) f g →
    textsWith f ts = textsWith g ts
  | [], _ => by rw [textsWith, textsWith]
  | t :: ts, h => by
    rw [referencesAll, agreeOn_append] at h
    rw [textsWith, textsWith, textWith_congr h.1, textsWith_congr h.2]

theorem receiverTextWith_congr : ∀ {t : Option TypeName}, AgreeOn (referencesReceiver t) f g →
    receiverTextWith f t = receiverTextWith g t
  | none, _ => by rw [receiverTextWith, receiverTextWith]
  | some t, h => by
    rw [referencesReceiver] at h
    rw [receiverTextWith, receiverTextWith, textWith_congr h]

theorem returnTextWith_congr : ∀ {t : Option TypeName}, AgreeOn (referencesReturn t) f g →
    returnTextWith f t = returnTextWith g t
  | none, h => by
    rw [referencesReturn] at h
    rw [returnTextWith, returnTextWith]
    exact h.text_eq (List.mem_singleton_self _)
  | some t, h => by
    rw [referencesReturn] at h
    rw [returnTextWith, returnTextWith, textWith_congr h]

end

end TypeName

theorem Argument.textForWith_congr {a : Argument} {h : Hole}
    {literal : Except FormatError String} (ha : AgreeOn a.references f g) :
    a.textForWith f h literal = a.textForWith g h literal := by
  cases h with
  | type =>
    cases a with
    | type t =>
      rw [Argument.references] at ha
      exact congrArg Except.ok (TypeName.textWith_congr ha)
    | scalar | code | arguments | declaration => rfl
  | name => rfl
  | string => rfl
  | literal => rfl

mutual

theorem CodeBlock.formattedWith_congr : ∀ {b : CodeBlock}, AgreeOn b.references f g →
    b.formattedWith f = b.formattedWith g
  | ⟨format, arguments⟩, h => by
    rw [CodeBlock.references] at h
    rw [CodeBlock.formattedWith, CodeBlock.formattedWith, holeTextsWith_congr format h]

theorem holeTextsWith_congr (format : String) : ∀ {as : List Argument} {hs : List Hole},
    AgreeOn (argumentReferences as) f g →
      holeTextsWith f format hs as = holeTextsWith g format hs as
  | [], [], _ => by rw [holeTextsWith, holeTextsWith]
  | _ :: _, [], _ => by rw [holeTextsWith, holeTextsWith]
  | [], _ :: _, _ => by rw [holeTextsWith, holeTextsWith]
  | a :: as, h :: hs, hag => by
    rw [argumentReferences, agreeOn_append] at hag
    rw [holeTextsWith, holeTextsWith, Argument.literalTextWith_congr hag.1,
      Argument.textForWith_congr hag.1, holeTextsWith_congr format hag.2]

theorem Argument.literalTextWith_congr : ∀ {a : Argument}, AgreeOn a.references f g →
    a.literalTextWith f = a.literalTextWith g
  | .scalar _, _ => by rw [Argument.literalTextWith, Argument.literalTextWith]
  | .type t, h => by
    rw [Argument.references] at h
    rw [Argument.literalTextWith, Argument.literalTextWith, TypeName.textWith_congr h]
  | .code block, h => by
    rw [Argument.references] at h
    rw [Argument.literalTextWith, Argument.literalTextWith, CodeBlock.formattedWith_congr h]
  | .arguments blocks, h => by
    rw [Argument.references] at h
    rw [Argument.literalTextWith, Argument.literalTextWith, formattedAllWith_congr h]
  | .declaration _ _, _ => by rw [Argument.literalTextWith, Argument.literalTextWith]

theorem formattedAllWith_congr : ∀ {bs : List CodeBlock}, AgreeOn (codeReferences bs) f g →
    formattedAllWith f bs = formattedAllWith g bs
  | [], _ => by rw [formattedAllWith, formattedAllWith]
  | b :: bs, h => by
    rw [codeReferences, agreeOn_append] at h
    rw [formattedAllWith, formattedAllWith, CodeBlock.formattedWith_congr h.1,
      formattedAllWith_congr h.2]

end

theorem typeTextAfter_congr {t : Option TypeName} (lead : String)
    (h : AgreeOn (optionReferences t) f g) : typeTextAfter f lead t = typeTextAfter g lead t := by
  cases t with
  | none => rfl
  | some t => exact congrArg (lead ++ ·) (TypeName.textWith_congr h)

theorem typeVariableTextWith_congr (vs : List TypeVariable) :
    typeVariableTextWith f vs = typeVariableTextWith g vs := by
  have hv : ∀ v : TypeVariable, v.asType.textWith f = v.asType.textWith g := by
    intro v
    refine TypeName.textWith_congr ?_
    intro c hc
    rw [TypeVariable.asType, TypeName.references] at hc
    cases hc
  unfold typeVariableTextWith
  rw [List.map_congr_left fun v _ => hv v]

theorem annotationTextWith_congr {annotations : List ClassName} (h : AgreeOn annotations f g) :
    annotationTextWith f annotations = annotationTextWith g annotations := by
  unfold annotationTextWith
  rw [List.map_congr_left fun c hc => congrArg (fun text => line ("@" ++ text)) (h.text_eq hc)]

theorem ParameterDecl.textWith_congr {p : ParameterDecl} (h : AgreeOn p.references f g) :
    p.textWith f = p.textWith g := by
  unfold textWith
  rw [TypeName.textWith_congr h]

theorem initializerTextWith_congr {b : Option CodeBlock}
    (h : AgreeOn (initializerReferences b) f g) :
    initializerTextWith f b = initializerTextWith g b := by
  cases b with
  | none => rfl
  | some b =>
    rw [initializerReferences] at h
    rw [initializerTextWith, initializerTextWith, CodeBlock.formattedWith_congr h]

theorem PropertyDecl.textWith_congr {p : PropertyDecl} (h : AgreeOn p.references f g) :
    p.textWith f = p.textWith g := by
  unfold references at h
  rw [agreeOn_append] at h
  unfold textWith
  rw [initializerTextWith_congr h.2, TypeName.textWith_congr h.1]

theorem statementTextsWith_congr {bs : List CodeBlock}
    (h : AgreeOn (bs.flatMap CodeBlock.references) f g) :
    statementTextsWith f bs = statementTextsWith g bs := by
  induction bs with
  | nil => rfl
  | cons b bs ih =>
    rw [List.flatMap_cons, agreeOn_append] at h
    rw [statementTextsWith, statementTextsWith, CodeBlock.formattedWith_congr h.1, ih h.2]

theorem FunctionDecl.textWith_congr {d : FunctionDecl} (h : AgreeOn d.references f g) :
    d.textWith f = d.textWith g := by
  unfold references at h
  rw [agreeOn_append, agreeOn_append, agreeOn_append] at h
  obtain ⟨⟨⟨hp, hr⟩, ha⟩, hs⟩ := h
  have hparameters : d.parameters.map (·.textWith f) = d.parameters.map (·.textWith g) :=
    List.map_congr_left fun p hm => ParameterDecl.textWith_congr (hp.of_mem_flatMap hm)
  unfold textWith signatureWith
  rw [statementTextsWith_congr hs, annotationTextWith_congr ha, hparameters,
    typeTextAfter_congr _ hr]

theorem propertyTextsWith_congr {ps : List PropertyDecl}
    (h : AgreeOn (ps.flatMap PropertyDecl.references) f g) :
    propertyTextsWith f ps = propertyTextsWith g ps := by
  induction ps with
  | nil => rfl
  | cons p ps ih =>
    rw [List.flatMap_cons, agreeOn_append] at h
    rw [propertyTextsWith, propertyTextsWith, PropertyDecl.textWith_congr h.1, ih h.2]

theorem functionTextsWith_congr {ds : List FunctionDecl}
    (h : AgreeOn (ds.flatMap FunctionDecl.references) f g) :
    functionTextsWith f ds = functionTextsWith g ds := by
  induction ds with
  | nil => rfl
  | cons d ds ih =>
    rw [List.flatMap_cons, agreeOn_append] at h
    rw [functionTextsWith, functionTextsWith, FunctionDecl.textWith_congr h.1, ih h.2]

theorem typeHeaderWith_congr {superType : Option TypeName} (name : String)
    (typeVariables : List TypeVariable) (modifiers : List Modifier)
    (h : AgreeOn (optionReferences superType) f g) :
    typeHeaderWith f name superType typeVariables modifiers =
      typeHeaderWith g name superType typeVariables modifiers := by
  unfold typeHeaderWith
  rw [typeVariableTextWith_congr, typeTextAfter_congr _ h]

mutual

theorem TypeDecl.textWith_congr : ∀ {t : TypeDecl}, AgreeOn t.references f g →
    t.textWith f = t.textWith g
  | ⟨name, superType, typeVariables, annotations, properties, functions, nested, modifiers⟩, h => by
    rw [TypeDecl.references, agreeOn_append, agreeOn_append, agreeOn_append, agreeOn_append] at h
    obtain ⟨⟨⟨⟨hsuper, ha⟩, hp⟩, hf⟩, hn⟩ := h
    rw [TypeDecl.textWith, TypeDecl.textWith, propertyTextsWith_congr hp,
      functionTextsWith_congr hf, typeTextsWith_congr hn, annotationTextWith_congr ha,
      typeHeaderWith_congr name typeVariables modifiers hsuper]

theorem typeTextsWith_congr : ∀ {ts : List TypeDecl}, AgreeOn (nestedReferences ts) f g →
    typeTextsWith f ts = typeTextsWith g ts
  | [], _ => by rw [typeTextsWith, typeTextsWith]
  | t :: ts, h => by
    rw [nestedReferences, agreeOn_append] at h
    rw [typeTextsWith, typeTextsWith, TypeDecl.textWith_congr h.1, typeTextsWith_congr h.2]

end

theorem AliasDecl.textWith_congr {a : AliasDecl} (h : AgreeOn a.references f g) :
    a.textWith f = a.textWith g := by
  unfold textWith
  rw [typeVariableTextWith_congr, TypeName.textWith_congr h]

namespace SourceFile

/-- A file has one text for class texts that agree on its references. -/
theorem textWith_congr {file : SourceFile} (h : AgreeOn file.references f g) :
    file.textWith f = file.textWith g := by
  unfold references at h
  rw [agreeOn_append, agreeOn_append, ← nestedReferences_eq_flatMap] at h
  obtain ⟨⟨ha, ht⟩, hf⟩ := h
  have haliases : file.aliases.map (·.textWith f) = file.aliases.map (·.textWith g) :=
    List.map_congr_left fun a hm => AliasDecl.textWith_congr (ha.of_mem_flatMap hm)
  unfold textWith
  rw [typeTextsWith_congr ht, functionTextsWith_congr hf, haliases]

/-- Another text for the class alone makes another text of the file. -/
def Prints (file : SourceFile) (c : ClassName) : Prop :=
  ∃ classText : ClassName → String, (∀ e, e ≠ c → classText e = e.rendered) ∧
    file.textWith classText ≠ file.text

/-- A printed class is referred to, up to its null mark. -/
theorem Prints.exists_reference {file : SourceFile} {c : ClassName} (h : file.Prints c) :
    ∃ e ∈ file.references, e.withNullable c.nullable = c := by
  obtain ⟨classText, hother, hne⟩ := h
  by_contra hno
  refine hne (textWith_congr ?_)
  intro e he nullable
  refine hother _ fun hc => hno ⟨e, he, ?_⟩
  rw [← hc]
  rfl

end SourceFile

/-- The outermost class is imported, or it needs no import in the file. -/
def SourceFile.Sees (file : SourceFile) (c : ClassName) : Prop :=
  Import.ofClass c ∈ file.imports ∨ c.package = file.package ∨ c.package ∈ defaultPackages ∨
    c.package = ""

namespace FileDraft

variable {d : FileDraft} {file : SourceFile}

theorem sees_of_reference (h : d.build = .ok file) {c : ClassName} (hc : c ∈ file.references) :
    file.Sees c := by
  obtain ⟨n, hn⟩ := exists_className_of_build h
  obtain ⟨imports, hi, himports, hreferences⟩ := exists_imports_of_build hn h
  obtain ⟨hd, _⟩ := build_eq_ok h
  obtain rfl : n = file.className := Option.some.inj (hn.symm.trans hd)
  obtain ⟨rfl, _⟩ := Import.compute_eq_ok.mp hi
  unfold SourceFile.Sees SourceFile.package
  by_cases hneeds : Import.needsPackage c = true
  · by_cases hp : c.package = file.className.package
    · exact Or.inr (Or.inl hp)
    · left
      rw [himports, Import.mem_ordered]
      refine List.mem_append_right _ (List.mem_map_of_mem ?_)
      rw [← hreferences]
      simp [hc, hneeds, hp]
  · have hdefault : c.package = "" ∨ c.package ∈ defaultPackages := by
      simp only [Import.needsPackage, Bool.and_eq_true, bne_iff_ne, Bool.not_eq_true',
        List.contains_eq_mem, decide_eq_false_iff_not, not_and_or, not_not] at hneeds
      exact hneeds
    exact Or.inr (Or.inr hdefault.symm)

/-- A file that is built sees every class that it prints. -/
theorem build_sees_printed (h : d.build = .ok file) : ∀ c, file.Prints c → file.Sees c := by
  intro c hc
  obtain ⟨e, he, hec⟩ := hc.exists_reference
  have hs : file.Sees e := sees_of_reference h he
  rw [← hec]
  exact hs

def innerClass : ClassName := { package := "io.y", enclosing := ["O"], simpleName := "K" }

def printingDraft : FileDraft where
  className := some { package := "", enclosing := [], simpleName := "F" }
  functions := [{ name := "f", statements := [⟨"%L", [.arguments [⟨"%L",
    [.code ⟨"%T", [.type (.scopeOf (.named innerClass))]⟩]⟩]]⟩] }]

theorem build_sees_printed_innerClass :
    ∃ file, printingDraft.build = .ok file ∧ file.Prints innerClass ∧
      file.Sees innerClass := by
  have hy : yields printingDraft.build (fun file =>
      yields (file.textWith fun e => if e = innerClass then "" else e.rendered) fun changed =>
        yields file.text fun text => changed != text) = true := by decide +kernel
  obtain ⟨file, hb, hy⟩ := exists_of_yields hy
  obtain ⟨changed, hc, hy⟩ := exists_of_yields hy
  obtain ⟨text, ht, hne⟩ := exists_of_yields hy
  have hp : file.Prints innerClass := by
    refine ⟨fun e => if e = innerClass then "" else e.rendered, fun e he => if_neg he, ?_⟩
    rw [hc, ht]
    intro he
    exact bne_iff_ne.mp hne (Except.ok.inj he)
  exact ⟨file, hb, hp, build_sees_printed hb innerClass hp⟩

end FileDraft

end FluentKotlin
