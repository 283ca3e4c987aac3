import FluentKotlin.Proofs.Generation.Rendering
import FluentKotlin.Proofs.Kotlin.CarriageReturn
import FluentKotlin.Proofs.Schema.StringDefault

/-! # Line ends of generated files

Every file of a pass ends with one line feed. A template or a documentation cannot bring a carriage
return into it. A name can, and so can a default: the literal of a text escapes a line feed and a
tab, but a carriage return stays as it is.
-/

namespace FluentKotlin

open Reporting Generating

/-! ### Stored properties -/

theorem PropertyDecl.exists_returns_iff {p : PropertyDecl} {b : CodeBlock} {code : String}
    (hi : p.initializer = some b) (hb : b.formatted = .ok code) :
    (∃ text, p.text = .ok text ∧ Returns text) ↔
      Returns p.name ∨ Returns p.type.rendered ∨ Returns code := by
  have hword : ∀ b : Bool, ¬ Returns (if b then "var" else "val") := by decide
  have hspace : ¬ Returns " " := by decide
  have hcolon : ¬ Returns ": " := by decide
  have hequal : ¬ Returns " = " := by decide
  unfold PropertyDecl.text textWith initializerTextWith
  rw [hi]
  dsimp only
  rw [show b.formattedWith ClassName.rendered = .ok code from hb]
  simp only [Except.map, ok_bind, pure_eq_ok, exists_eq_left', returns_append,
    not_returns_modifierText, hword, hspace, hcolon, hequal, false_or, or_false, or_assoc]
  rfl

namespace Schema

/-- A carriage return is in what is stored for the property. -/
inductive Exposes (s : Schema) : Prop where
  | name : Returns s.name → Exposes s
  | type : Returns (s.type.withNullable true).rendered → Exposes s
  | default {hint : DefaultHint} : s.default = some hint → Returns hint.literal → Exposes s

theorem returns_defaultText {hint : DefaultHint} :
    Returns (defaultText hint) ↔ Returns hint.literal := by
  unfold defaultText
  split
  · exact returns_stringLiteral
  · exact Iff.rfl

theorem exists_initializer_formatted (s : Schema) : ∃ code, s.initializer.formatted = .ok code ∧
    (Returns code ↔ ∃ hint, s.default = some hint ∧ Returns hint.literal) := by
  cases hd : s.default with
  | none =>
    refine ⟨"null", ?_, iff_of_false (by decide) (by simp)⟩
    unfold initializer
    rw [hd]
    rfl
  | some hint =>
    exact ⟨_, initializer_formattedWith_of_default hd, by simp [returns_defaultText]⟩

theorem returns_storedProperty_iff {s : Schema} {p : PropertyDecl}
    (h : s.storedProperty = .ok p) :
    (∃ text, p.text = .ok text ∧ Returns text) ↔ s.Exposes := by
  obtain ⟨_, _, hn, _, htype, rfl⟩ := PropertyDraft.build_eq_ok h
  cases hn
  cases htype
  obtain ⟨code, hc, hr⟩ := exists_initializer_formatted s
  rw [PropertyDecl.exists_returns_iff rfl hc, hr]
  constructor
  · rintro (hr | hr | ⟨_, hd, hr⟩)
    · exact .name hr
    · exact .type hr
    · exact .default hd hr
  · rintro (hr | hr | ⟨hd, hr⟩)
    · exact Or.inl hr
    · exact Or.inr (Or.inl hr)
    · exact Or.inr (Or.inr ⟨_, hd, hr⟩)

end Schema

/-! ### Names in the head of a file -/

theorem eq_of_ofNat_eq_return {n : Nat} (h : Char.ofNat n = '\r') : n = 13 := by
  by_cases hv : n.isValidChar
  · rw [← Text.toNat_ofNat hv, h]
    rfl
  · rw [Char.ofNat, dif_neg hv] at h
    cases h

theorem return_mem_lowerChar {c : Char} : '\r' ∈ Text.lowerChar c ↔ c = '\r' := by
  have hexpansion : ∀ e ∈ Text.lowerExpansions, '\r' ∉ e.2.map Char.ofNat := by decide
  have himage : ∀ s ∈ Text.lowerSpans, 13 < s.image := by decide +kernel
  constructor
  · intro h
    unfold Text.lowerChar at h
    rcases Text.caseImage_cases Text.lowerSpans Text.lowerExpansions c with
      ⟨e, he, himg⟩ | ⟨s, hs, himg⟩ | himg
    · rw [himg] at h
      exact absurd h (hexpansion e he)
    · rw [himg] at h
      have hlt := himage s hs
      have hcode := eq_of_ofNat_eq_return (List.mem_singleton.mp h).symm
      omega
    · rw [himg] at h
      exact (List.mem_singleton.mp h).symm
  · rintro rfl
    decide

theorem returns_lowerFirst {name : String} : Returns (lowerFirst name) ↔ Returns name := by
  unfold lowerFirst Returns
  cases name.toList with
  | nil => decide
  | cons c cs =>
    rw [String.toList_ofList, List.mem_append, return_mem_lowerChar, List.mem_cons, eq_comm]

namespace TypeName

theorem returns_scopeOf {t : TypeName} : Returns (scopeOf t).rendered ↔ Returns t.rendered := by
  have hrest : ¬ Returns ("." ++ "(" ++ String.intercalate ", " [] ++ ") -> " ++
      ClassName.rendered unitClass) := by decide
  have htext : (scopeOf t).rendered = t.rendered ++ ("." ++ "(" ++ String.intercalate ", " [] ++
      ") -> " ++ ClassName.rendered unitClass) := by
    simp [scopeOf, rendered, textWith, lambdaText, receiverTextWith, returnTextWith, textsWith,
      String.append_assoc]
  rw [htext, returns_append, or_iff_left hrest]

theorem returns_named {c : ClassName} : Returns (named c).rendered ↔ Returns c.localName := by
  rw [rendered, textWith, ClassName.returns_rendered]

theorem returns_apply {c : ClassName} {t : TypeName} :
    Returns (apply c [t]).rendered ↔ Returns c.localName ∨ Returns t.rendered := by
  have hopen : ¬ Returns "<" := by decide
  have hclose : ¬ Returns (">" ++ nullMark false) := by decide
  have htext : (apply c [t]).rendered =
      c.nonNull.rendered ++ "<" ++ t.rendered ++ (">" ++ nullMark false) := by
    simp [apply, rendered, textWith, textsWith, String.append_assoc]
  rw [htext, returns_append, returns_append, returns_append, or_iff_left hclose,
    or_iff_left hopen, ClassName.returns_rendered]
  rfl

end TypeName

namespace Naming

variable {n : Naming}

theorem localName_topLevelClass (package name : String) :
    (topLevelClass package name).localName = name := String.intercalate_singleton

theorem returns_builderName : Returns n.builderName ↔ Returns n.typeName := by
  have hpostfix : ¬ Returns builderPostfix := by decide
  rw [builderName, returns_append, or_iff_left hpostfix]

theorem returns_localName_of_typeName (h : Returns n.typeName) :
    Returns n.domainClass.localName :=
  ClassName.returns_localName.mpr ⟨_, List.mem_append_right _ (List.mem_singleton_self _), h⟩

theorem returns_header : Returns (typeHeaderWith ClassName.rendered n.builderName
    (some n.contract) [] [.isPublic]) ↔ Returns n.domainClass.localName := by
  have hclass : ¬ Returns "class " := by decide
  have hcolon : ¬ Returns " : " := by decide
  have hempty : ¬ Returns (typeVariableTextWith ClassName.rendered []) := by decide
  have hpostfix : ¬ Returns builderPostfix := by decide
  have hcontract : Returns (n.contract.textWith ClassName.rendered) ↔
      Returns n.domainClass.localName := by
    refine TypeName.returns_apply.trans ?_
    rw [localName_topLevelClass, or_iff_right hpostfix, TypeName.returns_named]
  unfold typeHeaderWith typeTextAfter
  simp only [returns_append, not_returns_modifierText, hclass, hempty, hcolon, hcontract,
    false_or, or_false, returns_builderName]
  exact or_iff_right_of_imp returns_localName_of_typeName

theorem returns_scopes : (∃ scope ∈ n.scopes, ∃ name ∈ scope.simpleNames, Returns name) ↔
    Returns n.typeName := by
  have hcontainer : ∀ {b : Bool} {container : String} {scope : ClassName} {name : String},
      ¬ Returns container → scope ∈ (if b then [n.builderClass.nested container] else []) →
      name ∈ scope.simpleNames → Returns name → Returns n.typeName := by
    intro b container scope name hc hs hn hr
    split at hs
    · rw [List.mem_singleton.mp hs] at hn
      rcases List.mem_pair.mp hn with rfl | rfl
      · exact returns_builderName.mp hr
      · exact absurd hr hc
    · cases hs
  constructor
  · rintro ⟨scope, hs, name, hn, hr⟩
    rcases List.mem_cons.mp hs with rfl | hs
    · rw [List.mem_singleton.mp hn] at hr
      exact returns_builderName.mp hr
    · rcases List.mem_append.mp hs with hs | hs
      · exact hcontainer (by decide) hs hn hr
      · exact hcontainer (by decide) hs hn hr
  · intro h
    exact ⟨_, List.mem_cons_self, n.builderName, List.mem_singleton_self _,
      returns_builderName.mpr h⟩

end Naming

namespace BuilderFile

variable {n : Naming} {schemas : List Schema} {t : TypeDecl} {file : SourceFile}

theorem returns_scopeType {scope : ClassName} :
    Returns (scopeType scope).rendered ↔ Returns scope.localName := by
  have hkey : ¬ Returns groupKey.asType.rendered := by decide
  unfold scopeType
  split
  · rw [TypeName.returns_scopeOf, TypeName.returns_apply, or_iff_left hkey]
  · rw [TypeName.returns_scopeOf, TypeName.returns_named]

theorem returns_scopeAlias {scope : ClassName} {a : AliasDecl} (h : scopeAlias scope = .ok a) :
    Returns (a.textWith ClassName.rendered) ↔ ∃ name ∈ scope.simpleNames, Returns name := by
  obtain ⟨_, _, hn, _, ht, rfl⟩ := AliasDraft.build_eq_ok h
  cases hn
  cases ht
  have hlead : ¬ Returns "typealias " := by decide
  have hscope : ¬ Returns "Scope" := by decide
  have hequal : ¬ Returns " = " := by decide
  have hkey : ¬ Returns (typeVariableTextWith ClassName.rendered
      (if isMapScope scope then [groupKey] else [])) := by
    split <;> decide
  have htype : Returns ((scopeType scope).textWith ClassName.rendered) ↔
      ∃ name ∈ scope.simpleNames, Returns name :=
    returns_scopeType.trans ClassName.returns_localName
  unfold AliasDecl.textWith aliasName
  simp only [returns_append, returns_join, hlead, hscope, hequal, hkey, htype, false_or, or_false,
    or_self]

theorem returns_scopeAliases_iff {as : List AliasDecl}
    (h : value (scopeAliases n.scopes) = .ok as) :
    (∃ a ∈ as, Returns (a.textWith ClassName.rendered)) ↔ Returns n.typeName := by
  rw [exists_mem_iff_of_forall₂ (scopeAliases_eq_ok h) fun _ _ ha => returns_scopeAlias ha]
  exact n.returns_scopes

theorem exposes_builderType_iff (h : value (builderType n schemas) = .ok t) :
    t.Exposes ClassName.rendered ↔
      (∃ m, markerClass n.settings.marker = .ok (some m) ∧ Returns m.localName) ∨
        Returns n.domainClass.localName ∨ ∃ s ∈ schemas, s.Exposes := by
  obtain ⟨marker, properties, _, _, _, hm, hp, _, _, _, rfl⟩ := exists_parts_of_builderType h
  have hstored := exists_mem_iff_of_forall₂ (storedProperties_eq_ok.mp hp)
    fun _ _ hs => Schema.returns_storedProperty_iff hs
  rw [← hstored]
  constructor
  · intro he
    cases he with
    | @marked c hc hr =>
      refine Or.inl ⟨c, ?_, ClassName.returns_rendered.mp hr⟩
      rw [hm, Option.mem_toList.mp hc]
    | header hr => exact Or.inr (Or.inl (Naming.returns_header.mp hr))
    | property hmem ht hr => exact Or.inr (Or.inr ⟨_, hmem, _, ht, hr⟩)
  · rintro (⟨m, hc, hr⟩ | hr | ⟨p, hmem, text, ht, hr⟩)
    · rw [hm] at hc
      cases hc
      exact .marked (List.mem_singleton_self m) (ClassName.returns_rendered.mpr hr)
    · exact .header (Naming.returns_header.mpr hr)
    · exact .property hmem ht hr

inductive Exposes (n : Naming) (schemas : List Schema) (file : SourceFile) : Prop where
  | domain : Returns n.domainClass.canonicalName → Exposes n schemas file
  | imported {i : Import} : i ∈ file.imports → Returns i.package ∨ Returns i.name →
      Exposes n schemas file
  | marker {m : ClassName} : markerClass n.settings.marker = .ok (some m) →
      Returns m.localName → Exposes n schemas file
  | stored {s : Schema} : s ∈ schemas → s.Exposes → Exposes n schemas file

theorem exposes_generate_iff (h : value (generate n schemas) = .ok file) :
    file.Exposes ClassName.rendered ↔ Exposes n schemas file := by
  obtain ⟨t, aliases, _, _, ht, ha, _, _, hf⟩ := exists_draft_of_generate h
  obtain ⟨hclass, haliases, htypes, hfunctions⟩ := FileDraft.build_eq_ok hf
  have hpackage : file.package = n.domainClass.package := by
    rw [SourceFile.package, ← Option.some.inj hclass]
    rfl
  have htype := exposes_builderType_iff ht
  constructor
  · intro he
    cases he with
    | package hr =>
      rw [hpackage] at hr
      exact .domain (ClassName.returns_canonicalName.mpr (Or.inl hr))
    | imported hi hr => exact .imported hi hr
    | «alias» hmem hr =>
      rw [haliases] at hmem
      have hname := (returns_scopeAliases_iff ha).mp ⟨_, hmem, hr⟩
      exact .domain (ClassName.returns_canonicalName.mpr
        (Or.inr (Naming.returns_localName_of_typeName hname)))
    | type hmem hr =>
      rw [htypes] at hmem
      cases List.mem_singleton.mp hmem
      rcases htype.mp hr with ⟨_, hm, hr⟩ | hr | ⟨_, hs, hr⟩
      · exact .marker hm hr
      · exact .domain (ClassName.returns_canonicalName.mpr (Or.inr hr))
      · exact .stored hs hr
    | function hmem _ =>
      rw [hfunctions] at hmem
      cases hmem
  · have hmem : t ∈ file.types := by
      rw [htypes]
      exact List.mem_singleton_self t
    intro he
    cases he with
    | domain hr =>
      rcases ClassName.returns_canonicalName.mp hr with hr | hr
      · rw [← hpackage] at hr
        exact .package hr
      · exact .type hmem (htype.mpr (Or.inr (Or.inl hr)))
    | imported hi hr => exact .imported hi hr
    | marker hm hr => exact .type hmem (htype.mpr (Or.inl ⟨_, hm, hr⟩))
    | stored hs hr => exact .type hmem (htype.mpr (Or.inr (Or.inr ⟨_, hs, hr⟩)))

end BuilderFile

namespace RootFile

variable {settings : Settings} {roots : List DomainType} {n : Naming} {f : FunctionDecl}
  {file : SourceFile}

theorem returns_signature (hname : f.name = n.functionName)
    (hparameters : f.parameters = [{ name := "block", type := .scopeOf (.named n.builderClass) }])
    (hreturns : f.returns = some (.named n.domainClass)) :
    Returns f.signature ↔ Returns n.domainClass.localName := by
  have hfun : ¬ Returns "fun " := by decide
  have hopen : ¬ Returns "(" := by decide
  have hblock : ¬ Returns "block" := by decide
  have hcolon : ¬ Returns ": " := by decide
  have hempty : ¬ Returns "" := by decide
  have hclose : ¬ Returns ")" := by decide
  have hscope : Returns ((TypeName.scopeOf (.named n.builderClass)).textWith ClassName.rendered) ↔
      Returns n.typeName := by
    refine TypeName.returns_scopeOf.trans (TypeName.returns_named.trans ?_)
    rw [Naming.builderClass, Naming.localName_topLevelClass, Naming.returns_builderName]
  have hreturn : Returns ((TypeName.named n.domainClass).textWith ClassName.rendered) ↔
      Returns n.domainClass.localName := TypeName.returns_named
  unfold FunctionDecl.signature FunctionDecl.signatureWith typeTextAfter
  rw [hname, hparameters, hreturns, List.map_singleton, String.intercalate_singleton]
  unfold ParameterDecl.textWith defaultText Naming.functionName
  simp only [returns_append, not_returns_modifierText, hfun, hopen, hblock, hcolon, hempty, hclose,
    hscope, hreturn, returns_lowerFirst, false_or, or_false, or_self]
  exact or_iff_right_of_imp Naming.returns_localName_of_typeName

theorem exposes_function_iff (h : function n = .ok f) :
    f.Exposes ClassName.rendered ↔ Returns n.domainClass.localName := by
  unfold function at h
  obtain ⟨block, hb, h⟩ := bind_eq_ok.mp h
  obtain ⟨_, _, hn, _, ht, rfl⟩ := ParameterDraft.build_eq_ok hb
  obtain ⟨_, hname, _, rfl⟩ := FunctionDraft.build_eq_ok h
  cases hn
  cases ht
  cases hname
  constructor
  · intro he
    cases he with
    | marked hc _ => cases hc
    | signature hr => exact (returns_signature rfl rfl rfl).mp hr
  · intro hr
    exact .signature ((returns_signature rfl rfl rfl).mpr hr)

inductive Exposes (settings : Settings) (roots : List DomainType) (file : SourceFile) : Prop where
  | package : Returns settings.rootFilePackage → Exposes settings roots file
  | imported {i : Import} : i ∈ file.imports → Returns i.package ∨ Returns i.name →
      Exposes settings roots file
  | root {d : DomainType} {c : ClassName} : d ∈ roots → d.className = .ok c →
      Returns c.localName → Exposes settings roots file

theorem exposes_generate_iff (h : value (generate settings roots) = .ok file) :
    file.Exposes ClassName.rendered ↔ Exposes settings roots file := by
  obtain ⟨hclass, haliases, htypes, hfs⟩ := generate_eq_ok h
  have hpackage : file.package = settings.rootFilePackage := by
    rw [SourceFile.package, hclass]
    rfl
  have hnone : ∀ {a : AliasDecl}, a ∉ file.aliases := by simp [haliases]
  constructor
  · intro he
    cases he with
    | package hr => exact .package (hpackage ▸ hr)
    | imported hi hr => exact .imported hi hr
    | «alias» hmem _ => exact absurd hmem hnone
    | type hmem _ =>
      rw [htypes] at hmem
      cases hmem
    | function hmem hr =>
      obtain ⟨d, hd, n, hn, hf⟩ := exists_mem_left hfs hmem
      obtain ⟨_, hc⟩ := naming_eq_ok hn
      exact .root hd hc ((exposes_function_iff hf).mp hr)
  · intro he
    cases he with
    | package hr => exact .package (hpackage ▸ hr)
    | imported hi hr => exact .imported hi hr
    | root hd hc hr =>
      obtain ⟨f, hmem, n, hn, hf⟩ := exists_mem_right hfs hd
      obtain ⟨_, hc'⟩ := naming_eq_ok hn
      rw [hc] at hc'
      cases hc'
      exact .function hmem ((exposes_function_iff hf).mpr hr)

end RootFile

/-! ### The files of a pass -/

namespace Pass

variable {settings : Settings} {ds : List DomainType} {result : PassResult} {file : SourceFile}

/-- A carriage return is in what the file of a domain or of the roots prints as it is. -/
inductive Exposes (settings : Settings) (ds : List DomainType) (file : SourceFile) : Prop where
  | domain {d : DomainType} {n : Naming} {schemas : List Schema} : d ∈ ds →
      Naming.ofDomain settings d = .ok n →
      value (Schema.ofDomainType (.ofList ds) d) = .ok schemas →
      value (BuilderFile.generate n schemas) = .ok file → BuilderFile.Exposes n schemas file →
      Exposes settings ds file
  | roots : value (RootFile.generate settings (ds.filter (·.isRoot))) = .ok file →
      RootFile.Exposes settings (ds.filter (·.isRoot)) file → Exposes settings ds file

theorem exposes_iff (h : value (run settings ds) = .ok result) (hm : file ∈ result.files) :
    file.Exposes ClassName.rendered ↔ Exposes settings ds file := by
  constructor
  · intro he
    cases madeFrom_of_mem_files h hm with
    | domain hd hn hs hg => exact .domain hd hn hs hg ((BuilderFile.exposes_generate_iff hg).mp he)
    | roots hg => exact .roots hg ((RootFile.exposes_generate_iff hg).mp he)
  · intro he
    cases he with
    | domain _ _ _ hg he => exact (BuilderFile.exposes_generate_iff hg).mpr he
    | roots hg he => exact (RootFile.exposes_generate_iff hg).mpr he

/-- Every file of a pass has a text that ends with one line feed. A carriage return is in it exactly
where one is in the name of a domain, an import or the marker, or in the name, the type or the
default of a property. -/
theorem run_returns_iff (h : value (run settings ds) = .ok result) :
    ∀ file ∈ result.files, ∃ text, file.text = .ok text ∧ EndsOnce text ∧
      (Returns text ↔ Exposes settings ds file) := by
  intro file hm
  obtain ⟨text, ht⟩ := exists_text_of_mem_files h hm
  obtain ⟨hr, he⟩ := SourceFile.returns_iff ht
  exact ⟨text, ht, he, hr.trans (exposes_iff h hm)⟩

def returningTemplate : String :=
  "transforms: \x7bB: \x7binputType: String, template: \"f(%N\\r)\"\x7d\x7d\n"
    ++ "domains:\n- name: A\n  properties: [\x7bname: b, type: B\x7d]\n"

theorem run_returns_iff_returningTemplate :
    ∃ doc result, Document.ofText returningTemplate = .ok doc ∧
      value (run packageSettings doc.domains) = .ok result ∧ result.files.length = 1 ∧
      ∀ file ∈ result.files, ∃ text, file.text = .ok text ∧ EndsOnce text ∧
        (Returns text ↔ Exposes packageSettings doc.domains file) := by
  have hy : yields (Document.ofText returningTemplate) (fun doc =>
      yields (value (run packageSettings doc.domains)) fun result =>
        result.files.length == 1) = true := by decide +kernel
  obtain ⟨doc, hd, hy⟩ := exists_of_yields hy
  obtain ⟨result, hr, hl⟩ := exists_of_yields hy
  exact ⟨doc, result, hd, hr, beq_iff_eq.mp hl, run_returns_iff hr⟩

def packageOptions : Entries :=
  [(.text "projectRootClasspath", .scalar (.text "io.x")),
    (.text "dslBuilderClasspath", .scalar (.text "io.y"))]

def returningDefault : String :=
  "domains:\n- name: io.x.A\n  properties: [\x7bname: a, type: String, "
    ++ "default: \"x\\ry\"\x7d]\n"

/-- The default comes with its carriage return into the file. -/
theorem returns_returningDefault :
    ∃ doc result file text, Document.ofText returningDefault = .ok doc ∧
      Settings.ofOptions packageOptions = .ok packageSettings ∧
      value (run packageSettings doc.domains) = .ok result ∧ file ∈ result.files ∧
      file.text = .ok text ∧ Returns text := by
  have hy : yields (Document.ofText returningDefault) (fun doc =>
      yields (value (run packageSettings doc.domains)) fun result =>
        result.files.any fun file => file.types.any fun t => t.properties.any fun p =>
          yields p.text fun text => decide (Returns text)) = true := by decide +kernel
  obtain ⟨doc, hd, hy⟩ := exists_of_yields hy
  obtain ⟨result, hr, hy⟩ := exists_of_yields hy
  obtain ⟨file, hm, hy⟩ := List.any_eq_true.mp hy
  obtain ⟨t, ht, hy⟩ := List.any_eq_true.mp hy
  obtain ⟨p, hp, hy⟩ := List.any_eq_true.mp hy
  obtain ⟨ptext, hptext, hy⟩ := exists_of_yields hy
  obtain ⟨text, htext⟩ := exists_text_of_mem_files hr hm
  refine ⟨doc, result, file, text, hd, rfl, hr, hm, htext, ?_⟩
  exact (SourceFile.returns_iff htext).1.mpr
    (.type ht (.property hp hptext (of_decide_eq_true hy)))

end Pass

end FluentKotlin
