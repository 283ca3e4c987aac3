import FluentKotlin.Proofs.Domain.Naming
import FluentKotlin.Proofs.Generation.Shape
import FluentKotlin.Proofs.Kotlin.Formatted
import FluentKotlin.Proofs.Schema.Accessor

/-! # Builders mirror their schemas

A builder has one variable and one accessor for each schema, in the order of the schemas. Its
function `build` gives each stored value to the constructor, in the same order and by name. A value
that must be there goes through a check first, and the checks that are used are the ones that the
file imports for its builder.
-/

namespace FluentKotlin

open Reporting Generating

/-- What is demanded of a value of the form that may not be left out. -/
def Form.demand : Form → Check
  | .collection _ | .group _ _ _ => .collectionNotEmpty
  | .map _ _ | .mapGroup _ _ _ _ => .mapNotEmpty
  | .boolean | .plain _ | .builder _ _ _ | .transform _ _ _ => .notNull

theorem Check.helper_injective : Function.Injective Check.helper := by
  intro c e h
  cases c <;> cases e <;> first | rfl | (revert h; decide)

namespace Schema

variable {s : Schema} {c : Check}

/-- The value of the property goes through the check in `build`. -/
def Uses (s : Schema) (c : Check) : Prop := s.nullable = false ∧ s.form.demand = c

theorem check?_eq (s : Schema) :
    s.check? = if s.nullable then none else some s.form.demand := by
  unfold check?
  cases s.form <;> rfl

theorem check?_eq_some_iff : s.check? = some c ↔ s.Uses c := by
  rw [check?_eq, Uses]
  cases s.nullable <;> simp

def passedValue (s : Schema) : String :=
  if s.nullable then s.name else s.form.demand.helper ++ "(::" ++ s.name ++ ")"

def passedArgument (s : Schema) : String := s.name ++ " = " ++ s.passedValue

theorem formatted_stored (name : String) :
    (CodeBlock.mk "%N" [.text name]).formatted = .ok name := by
  have ht : holeTextsWith ClassName.rendered "%N" [.name] [.text name] = .ok [name] := rfl
  rw [CodeBlock.formatted_of_holeTexts rfl ht]
  simp [pieces, Hole.ofChar?, fill]

theorem formatted_checked (c : Check) (name : String) :
    (CodeBlock.mk (c.helper ++ "(::%N)") [.text name]).formatted =
      .ok (c.helper ++ "(::" ++ name ++ ")") := by
  have hp : pieces (c.helper ++ "(::%N)").toList =
      (c.helper ++ "(::").toList.map .char ++ [.hole .name, .char ')'] := by
    cases c <;> decide
  have hh : holes ((c.helper ++ "(::").toList.map .char ++ [.hole .name, .char ')']) =
      [.name] := by
    cases c <;> decide
  have ht : holeTextsWith ClassName.rendered (c.helper ++ "(::%N)")
      (holes ((c.helper ++ "(::").toList.map .char ++ [.hole .name, .char ')'])) [.text name] =
      .ok [name] := by
    rw [hh]
    rfl
  rw [CodeBlock.formatted_of_holeTexts hp ht]
  refine congrArg Except.ok (String.toList_inj.mp ?_)
  cases c <;> simp [fill, Check.helper]

theorem formatted_valueCode (s : Schema) : s.valueCode.formatted = .ok s.passedValue := by
  unfold valueCode passedValue
  rw [check?_eq]
  cases s.nullable with
  | true => exact formatted_stored s.name
  | false => exact formatted_checked s.form.demand s.name

end Schema

structure PropertyDecl.Stores (p : PropertyDecl) (s : Schema) : Prop where
  name : p.name = s.name
  isMutable : p.isMutable = true
  nullable : p.type.nullable = true

structure FunctionDecl.Sets (f : FunctionDecl) (s : Schema) : Prop where
  accessor : s.accessor = .ok f
  name : f.name = s.name

/-- The block returns what the constructor makes of the properties, by name and in order. -/
structure CodeBlock.Constructs (b : CodeBlock) (c : ClassName) (schemas : List Schema) :
    Prop where
  nothing : schemas = [] → b = ⟨"return %T()", [.type (.named c)]⟩
  named : schemas ≠ [] → ∃ arguments,
    b = ⟨"return %T(%L)", [.type (.named c), .arguments arguments]⟩ ∧
      List.Forall₂ (fun a s => a.formatted = .ok (Schema.passedArgument s)) arguments schemas
  text : b.formatted =
    .ok ("return " ++ c.rendered ++ "(" ++ argumentLines (schemas.map (·.passedArgument)) ++ ")")

structure FunctionDecl.Constructs (f : FunctionDecl) (c : ClassName) (schemas : List Schema) :
    Prop where
  name : f.name = "build"
  overridden : f.overridden = true ∧ f.modifiers = [.override]
  parameters : f.parameters = []
  returns : f.returns = some (.named c)
  statement : ∃ b, f.statements = [b] ∧ b.Constructs c schemas

/-- The type is a builder with the members that the schemas ask for, and with no other properties
and functions. -/
structure TypeDecl.Mirrors (t : TypeDecl) (n : Naming) (schemas : List Schema) : Prop where
  name : t.name = n.builderName
  properties : List.Forall₂ PropertyDecl.Stores t.properties schemas
  functions : ∃ accessors build, t.functions = accessors ++ [build] ∧
    List.Forall₂ FunctionDecl.Sets accessors schemas ∧ build.Constructs n.domainClass schemas

namespace BuilderFile

variable {n : Naming} {schemas : List Schema} {t : TypeDecl} {file : SourceFile}

theorem stores_storedProperties {ps : List PropertyDecl} (h : storedProperties schemas = .ok ps) :
    List.Forall₂ PropertyDecl.Stores ps schemas := by
  refine (storedProperties_eq_ok.mp h).flip.imp fun p s hp => ?_
  obtain ⟨_, _, hn, _, ht, rfl⟩ := PropertyDraft.build_eq_ok hp
  refine ⟨(Option.some.inj hn).symm, rfl, ?_⟩
  rw [← Option.some.inj ht]
  exact TypeName.nullable_withNullable true s.type

theorem sets_accessors {fs : List FunctionDecl} (h : accessors schemas = .ok fs) :
    List.Forall₂ FunctionDecl.Sets fs schemas :=
  (accessors_eq_ok.mp h).flip.imp fun _ _ hf => ⟨hf, Schema.name_of_accessor hf⟩

theorem formatted_constructorArgument (s : Schema) :
    (constructorArgument s).formatted = .ok s.passedArgument := by
  have ht : holeTextsWith ClassName.rendered "%N = %L" [.name, .literal]
      [.text s.name, .code s.valueCode] = .ok [s.name, s.passedValue] := by
    have hv : s.valueCode.formattedWith ClassName.rendered = .ok s.passedValue :=
      s.formatted_valueCode
    simp only [holeTextsWith, Argument.textForWith, Argument.literalTextWith, hv]
    rfl
  unfold constructorArgument
  rw [CodeBlock.formatted_of_holeTexts rfl ht]
  refine congrArg Except.ok (String.toList_inj.mp ?_)
  simp [pieces, Hole.ofChar?, fill, Schema.passedArgument]

theorem formattedAllWith_constructorArguments (schemas : List Schema) :
    formattedAllWith ClassName.rendered (schemas.map constructorArgument) =
      .ok (schemas.map (·.passedArgument)) := by
  induction schemas with
  | nil => rfl
  | cons s ss ih =>
    have hs : (constructorArgument s).formattedWith ClassName.rendered = .ok s.passedArgument :=
      formatted_constructorArgument s
    simp only [List.map_cons, formattedAllWith, hs, ih]
    rfl

theorem constructs_constructorCall (c : ClassName) (schemas : List Schema) :
    (constructorCall c schemas).Constructs c schemas := by
  cases schemas with
  | nil =>
    refine ⟨fun _ => rfl, fun h => absurd rfl h, ?_⟩
    have ht : holeTextsWith ClassName.rendered "return %T()" [.type] [.type (.named c)] =
        .ok [c.rendered] := rfl
    refine (CodeBlock.formatted_of_holeTexts rfl ht).trans ?_
    refine congrArg Except.ok (String.toList_inj.mp ?_)
    simp [pieces, Hole.ofChar?, fill, argumentLines]
  | cons s ss =>
    refine ⟨fun h => (List.cons_ne_nil _ _ h).elim, fun _ => ⟨_, rfl, ?_⟩, ?_⟩
    · rw [List.forall₂_map_left_iff, List.forall₂_same]
      exact fun s _ => formatted_constructorArgument s
    · have ht : holeTextsWith ClassName.rendered "return %T(%L)" [.type, .literal]
          [.type (.named c), .arguments ((s :: ss).map constructorArgument)] =
          .ok [c.rendered, argumentLines ((s :: ss).map (·.passedArgument))] := by
        simp only [holeTextsWith, Argument.textForWith, Argument.literalTextWith,
          formattedAllWith_constructorArguments]
        rfl
      refine (CodeBlock.formatted_of_holeTexts rfl ht).trans ?_
      refine congrArg Except.ok (String.toList_inj.mp ?_)
      simp [pieces, Hole.ofChar?, fill]

theorem constructs_buildFunction {c : ClassName} {f : FunctionDecl}
    (h : buildFunction c schemas = .ok f) : f.Constructs c schemas := by
  obtain ⟨_, hn, _, rfl⟩ := FunctionDraft.build_eq_ok h
  exact ⟨(Option.some.inj hn).symm, ⟨rfl, rfl⟩, rfl, rfl, _, rfl,
    constructs_constructorCall c schemas⟩

theorem mirrors_builderType (h : value (builderType n schemas) = .ok t) : t.Mirrors n schemas := by
  obtain ⟨functions, build, _, hn, hp, hf, hb, hfunctions, _⟩ := exists_members_of_builderType h
  exact ⟨hn, stores_storedProperties hp, functions, build, hfunctions, sets_accessors hf,
    constructs_buildFunction hb⟩

theorem mem_checkImports {package : String} {cs : List Check} {imports : List Import}
    (h : value (checkImports package schemas cs) = .ok imports) {i : Import} :
    i ∈ imports ↔ ∃ c ∈ cs, (∃ s ∈ schemas, s.Uses c) ∧ i = ⟨package, c.helper⟩ := by
  induction cs generalizing imports with
  | nil =>
    cases h
    simp
  | cons c cs ih =>
    have hneeded : isNeeded schemas c = true ↔ ∃ s ∈ schemas, s.Uses c := by
      simp [isNeeded, Schema.check?_eq_some_iff]
    unfold checkImports at h
    simp only [value_bind, value_debug, ok_bind, value_pure] at h
    obtain ⟨is, hi, h⟩ := bind_eq_ok.mp h
    cases h
    rw [List.mem_append, ih hi, List.exists_mem_cons_iff, ← hneeded]
    refine or_congr ?_ Iff.rfl
    split <;> simp [*]

/-- A default of a nominal type is imported as the class of the type, if that lies in another
package. -/
theorem mem_defaultImport {package : String} {default : Option DefaultHint}
    {imports : List Import} (h : defaultImport package default = .ok imports) {i : Import} :
    i ∈ imports ↔ ∃ d c, default = some d ∧ d.valueType.kind = .nominal ∧
      d.valueType.className = .ok c ∧ c.package ≠ "" ∧ c.package ≠ package ∧ i = .ofClass c := by
  cases default with
  | none =>
    cases h
    simp
  | some d =>
    unfold defaultImport at h
    dsimp only at h
    by_cases hk : d.valueType.kind = .nominal
    · rw [if_pos hk] at h
      obtain ⟨c, hc, h⟩ := bind_eq_ok.mp h
      cases h
      constructor
      · intro hi
        by_cases hp : c.topLevel.package ≠ "" ∧ c.topLevel.package ≠ package
        · rw [if_pos hp] at hi
          exact ⟨d, c, rfl, hk, hc, hp.1, hp.2, List.mem_singleton.mp hi⟩
        · rw [if_neg hp] at hi
          cases hi
      · rintro ⟨_, _, ⟨rfl⟩, _, he, hne, hp, rfl⟩
        cases hc.symm.trans he
        rw [if_pos ⟨hne, hp⟩]
        exact List.mem_singleton_self _
    · rw [if_neg hk] at h
      cases h
      refine iff_of_false List.not_mem_nil ?_
      rintro ⟨_, _, ⟨rfl⟩, hn, _⟩
      exact hk hn

theorem mem_defaultImports {package : String} {imports : List Import}
    (h : defaultImports package schemas = .ok imports) {i : Import} :
    i ∈ imports ↔ ∃ s ∈ schemas, ∃ d c, s.default = some d ∧ d.valueType.kind = .nominal ∧
      d.valueType.className = .ok c ∧ c.package ≠ "" ∧ c.package ≠ package ∧ i = .ofClass c := by
  induction schemas generalizing imports with
  | nil =>
    cases h
    simp
  | cons s ss ih =>
    obtain ⟨own, ho, h⟩ := bind_eq_ok.mp h
    obtain ⟨rest, hr, h⟩ := bind_eq_ok.mp h
    cases h
    rw [List.mem_append, mem_defaultImport ho, ih hr, List.exists_mem_cons_iff]

theorem exists_of_mem_defaultImports {package : String} {imports : List Import}
    (h : defaultImports package schemas = .ok imports) {i : Import} (hi : i ∈ imports) :
    ∃ s ∈ schemas, ∃ d c, s.default = some d ∧ d.valueType.className = .ok c ∧
      i = .ofClass c := by
  obtain ⟨s, hs, d, c, hd, _, hc, _, _, rfl⟩ := (mem_defaultImports h).mp hi
  exact ⟨s, hs, d, c, hd, hc, rfl⟩

/-- A builder mirrors its schemas. The check of an argument is imported, and a check that is in no
argument is not, unless the file mentions a class that goes by the name of the check, or a default
has the type of one. -/
theorem generate_mirrors (h : value (generate n schemas) = .ok file) :
    (∃ t, file.types = [t] ∧ t.Mirrors n schemas) ∧
      ∀ c : Check,
        ((∃ s ∈ schemas, s.Uses c) → ⟨n.settings.contractPackage, c.helper⟩ ∈ file.imports) ∧
        (⟨n.settings.contractPackage, c.helper⟩ ∈ file.imports →
          (∃ s ∈ schemas, s.Uses c) ∨
            (∃ e ∈ file.references, e.package = n.settings.contractPackage ∧
              e.topName = c.helper) ∨
            ∃ s ∈ schemas, ∃ d e, s.default = some d ∧ d.valueType.className = .ok e ∧
              e.package = n.settings.contractPackage ∧ e.topName = c.helper) := by
  obtain ⟨t, aliases, checks, defaults, ht, _, hc, hd, hf⟩ := exists_draft_of_generate h
  obtain ⟨_, _, htypes, _⟩ := FileDraft.build_eq_ok hf
  obtain ⟨imports, hi, rfl, hr⟩ := FileDraft.exists_imports_of_build rfl hf
  have mem_imports : ∀ i, i ∈ file.imports ↔
      i ∈ checks ∨ i ∈ defaults ∨ i ∈ Import.foreign n.fileClass.package file.references := by
    intro i
    rw [hr, (Import.compute_eq_ok.mp hi).1, Import.mem_ordered, List.mem_append, List.mem_append,
      or_assoc]
  refine ⟨⟨t, htypes, mirrors_builderType ht⟩, fun c => ⟨fun hused => ?_, fun himported => ?_⟩⟩
  · have hall : c ∈ Check.all := by
      cases c <;> decide
    exact (mem_imports _).mpr (.inl ((mem_checkImports hc).mpr ⟨c, hall, hused, rfl⟩))
  · rcases (mem_imports _).mp himported with hm | hm | hm
    · obtain ⟨e, _, hused, he⟩ := (mem_checkImports hc).mp hm
      obtain rfl : c = e := Check.helper_injective (congrArg Import.name he)
      exact .inl hused
    · obtain ⟨s, hs, d, e, hdefault, he, hclass⟩ := exists_of_mem_defaultImports hd hm
      exact .inr (.inr ⟨s, hs, d, e, hdefault, he, (congrArg Import.package hclass).symm,
        (congrArg Import.name hclass).symm⟩)
    · obtain ⟨e, he, hclass⟩ := List.mem_map.mp hm
      exact .inr (.inl ⟨e, List.mem_of_mem_filter (List.mem_of_mem_filter he),
        congrArg Import.package hclass, congrArg Import.name hclass⟩)

def cabinSchemas : List Schema :=
  [{ name := "label", nullable := true, default := none,
      form := .plain (.named (kotlinClass "String")) },
    { name := "crew", nullable := false, default := none,
      form := .collection (.named (kotlinClass "String")) },
    { name := "locked", nullable := false, default := none, form := .boolean }]

theorem generate_mirrors_cabinSchemas :
    ∃ n file t, Naming.ofDomain packageSettings { qualifiedName := "io.x.Cabin" } = .ok n ∧
      value (generate n cabinSchemas) = .ok file ∧ file.types = [t] ∧ t.Mirrors n cabinSchemas ∧
      ⟨n.settings.contractPackage, "vRequireCollectionNotEmpty"⟩ ∈ file.imports := by
  have hy : yields (Naming.ofDomain packageSettings { qualifiedName := "io.x.Cabin" }) (fun n =>
      yields (value (generate n cabinSchemas)) fun _ => true) = true := by decide +kernel
  obtain ⟨n, hn, hy⟩ := exists_of_yields hy
  obtain ⟨file, hf, _⟩ := exists_of_yields hy
  obtain ⟨⟨t, ht, hm⟩, himports⟩ := generate_mirrors hf
  have hused : ∃ s ∈ cabinSchemas, s.Uses .collectionNotEmpty :=
    ⟨_, List.mem_cons_of_mem _ List.mem_cons_self, rfl, rfl⟩
  exact ⟨n, file, t, hn, hf, ht, hm, (himports .collectionNotEmpty).1 hused⟩

end BuilderFile

end FluentKotlin
