import FluentKotlin.Proofs.Generation.Linking
import FluentKotlin.Proofs.Kotlin.Fitting
import FluentKotlin.Proofs.Schema.Template

/-! # Rendering of generated files

The code in every file of a pass fits its holes, whatever the names, templates and literals of the
domains are, so every file has a text. The texts of a domain are arguments, which are not read
again, except for a template: it stands in a format of its own, after its holes have been counted.
-/

namespace FluentKotlin

open Reporting Generating

theorem CodeBlock.fits_of_holes {format : String} {arguments : List Argument} {hs : List Hole}
    (hh : holes (pieces format.toList) = hs) (hf : List.Forall₂ Argument.Suits arguments hs)
    (ha : ∀ a ∈ arguments, a.Fits) : CodeBlock.Fits ⟨format, arguments⟩ := by
  rw [fits_iff, hh]
  exact ⟨hf, ha⟩

theorem CodeBlock.fits_nil {format : String} (hh : holes (pieces format.toList) = []) :
    CodeBlock.Fits ⟨format, []⟩ := fits_of_holes hh .nil (by simp)

theorem ParameterDecl.fits_argument (p : ParameterDecl) : p.argument.Fits :=
  Argument.fits_declaration _ _

theorem ParameterDecl.suits_argument (p : ParameterDecl) : p.argument.Suits .name :=
  .declaration _ _

namespace Schema

theorem fits_valueCode (s : Schema) : s.valueCode.Fits := by
  have hf : List.Forall₂ Argument.Suits [.text s.name] [.name] := .cons (.name _) .nil
  have ha : ∀ a ∈ [Argument.text s.name], a.Fits := by simp [Argument.fits_text]
  unfold valueCode
  cases s.check? with
  | none => exact CodeBlock.fits_of_holes rfl hf ha
  | some c => cases c <;> exact CodeBlock.fits_of_holes rfl hf ha

theorem fits_defaultCode (d : DefaultHint) : (defaultCode d).Fits := by
  have ha : ∀ a ∈ [Argument.text d.literal], a.Fits := by simp [Argument.fits_text]
  unfold defaultCode
  split
  · exact CodeBlock.fits_of_holes rfl (.cons (.string _) .nil) ha
  · exact CodeBlock.fits_of_holes rfl (.cons (.verbatim _) .nil) ha

theorem fits_initializer (s : Schema) : s.initializer.Fits := by
  unfold initializer
  split
  · exact fits_defaultCode _
  · exact CodeBlock.fits_nil rfl

theorem fits_storedProperty {s : Schema} {p : PropertyDecl} (h : s.storedProperty = .ok p) :
    ∀ b ∈ p.code, b.Fits := by
  obtain ⟨_, _, _, _, _, rfl⟩ := PropertyDraft.build_eq_ok h
  intro b hb
  obtain rfl : b = s.initializer := by simpa [PropertyDecl.code] using hb
  exact fits_initializer s

theorem fits_assignment (name : String) (parameter : ParameterDecl) :
    (assignment name parameter).Fits :=
  CodeBlock.fits_of_holes rfl
    (.cons (.name _) (.cons parameter.suits_argument .nil))
    (by simp [Argument.fits_text, parameter.fits_argument])

/-- The template goes on where the format of the statement ends. -/
theorem holes_templateFormat (template : String) :
    holes (pieces ("this.%N = " ++ template).toList) = .name :: holes (pieces template.toList) := by
  rw [String.toList_append, pieces_append (by decide), holes_append, Template.pieces_beginning]
  rfl

theorem fits_templateStatement {template : String} {inputs : Nat}
    (h : templateInputs template.toList = .ok inputs) (name : String) (parameter : ParameterDecl) :
    (templateStatement name template parameter inputs).Fits := by
  refine CodeBlock.fits_of_holes (holes_templateFormat template) (.cons (.name _) ?_) ?_
  · obtain ⟨ps, hps, rfl⟩ := Template.templateInputs_eq_ok.mp h
    rw [hps, Template.holes_spelled]
    exact forall₂_replicate parameter.suits_argument _
  · intro a ha
    rcases List.mem_cons.mp ha with rfl | ha
    · exact Argument.fits_text name
    · obtain rfl := List.eq_of_mem_replicate ha
      exact parameter.fits_argument

theorem fits_transformStatement {name : String} {t : TypeName} {template : Option String}
    {parameter : ParameterDecl} {b : CodeBlock}
    (h : transformStatement name t template parameter = .ok b) : b.Fits := by
  unfold transformStatement at h
  split at h
  · cases h
    exact CodeBlock.fits_of_holes rfl
      (.cons (.name _) (.cons (.type _) (.cons parameter.suits_argument .nil)))
      (by simp [Argument.fits_text, Argument.fits_type, parameter.fits_argument])
  · cases hi : templateInputs (textOr template "").toList with
    | ok inputs =>
      rw [hi] at h
      cases h
      exact fits_templateStatement hi name parameter
    | error found =>
      rw [hi] at h
      cases h

theorem fits_valueAccessor {name : String} {t : TypeName} {f : FunctionDecl}
    (h : valueAccessor name t = .ok f) : ∀ b ∈ f.statements, b.Fits := by
  obtain ⟨parameter, _, h⟩ := bind_eq_ok.mp h
  rw [statements_of_accessorOf h]
  simpa using fits_assignment name parameter

theorem fits_containerAccessor {name : String} {container : TypeName} {doc : Option String}
    {f : FunctionDecl} (h : containerAccessor name container doc = .ok f) :
    ∀ b ∈ f.statements, b.Fits := by
  obtain ⟨parameter, _, h⟩ := bind_eq_ok.mp h
  rw [statements_of_accessorOf h, List.forall_mem_singleton]
  exact CodeBlock.fits_of_holes rfl (.cons (.name _) (.cons (.type _) .nil))
    (by simp [Argument.fits_text, Argument.fits_type])

theorem fits_builderAccessor {name : String} {builder : ClassName} {doc : Option String}
    {f : FunctionDecl} (h : builderAccessor name builder doc = .ok f) :
    ∀ b ∈ f.statements, b.Fits := by
  obtain ⟨parameter, _, h⟩ := bind_eq_ok.mp h
  rw [statements_of_accessorOf h, List.forall_mem_cons, List.forall_mem_cons,
    List.forall_mem_singleton]
  refine ⟨?_, ?_, ?_⟩
  · exact CodeBlock.fits_of_holes rfl (.cons (.type _) .nil)
      (by simp [Argument.fits_type])
  · exact CodeBlock.fits_nil rfl
  · exact CodeBlock.fits_of_holes rfl (.cons (.name _) .nil)
      (by simp [Argument.fits_text])

theorem fits_transformAccessor {name : String} {t input : TypeName} {template : Option String}
    {f : FunctionDecl} (h : transformAccessor name t input template = .ok f) :
    ∀ b ∈ f.statements, b.Fits := by
  obtain ⟨parameter, _, h⟩ := bind_eq_ok.mp h
  obtain ⟨statement, hs, h⟩ := bind_eq_ok.mp h
  rw [statements_of_accessorOf h, List.forall_mem_singleton]
  exact fits_transformStatement hs

theorem fits_accessor {s : Schema} {f : FunctionDecl} (h : s.accessor = .ok f) :
    ∀ b ∈ f.statements, b.Fits := by
  unfold accessor at h
  cases hf : s.form with
  | boolean =>
    rw [hf] at h
    obtain ⟨parameter, _, h⟩ := bind_eq_ok.mp h
    rw [statements_of_accessorOf h, List.forall_mem_singleton]
    exact fits_assignment _ _
  | plain t =>
    rw [hf] at h
    exact fits_valueAccessor h
  | map key value =>
    rw [hf] at h
    exact fits_valueAccessor h
  | collection element =>
    rw [hf] at h
    exact fits_valueAccessor h
  | group c b doc =>
    rw [hf] at h
    exact fits_containerAccessor h
  | mapGroup key c b doc =>
    rw [hf] at h
    exact fits_containerAccessor h
  | builder t b doc =>
    rw [hf] at h
    exact fits_builderAccessor h
  | transform t input template =>
    rw [hf] at h
    exact fits_transformAccessor h

end Schema

namespace GroupKind

variable {k : GroupKind} {n : Naming} {marker : Option ClassName} {t : TypeDecl}

theorem fits_itemsProperty {c : ClassName} {p : PropertyDecl} (h : k.itemsProperty c = .ok p) :
    ∀ b ∈ p.code, b.Fits := by
  obtain ⟨_, _, _, _, _, rfl⟩ := PropertyDraft.build_eq_ok h
  intro b hb
  obtain rfl : b = ⟨k.emptyCode, []⟩ := by simpa [PropertyDecl.code] using hb
  cases k <;> exact CodeBlock.fits_nil rfl

theorem fits_itemsFunction {c : ClassName} {f : FunctionDecl} (h : k.itemsFunction c = .ok f) :
    ∀ b ∈ f.statements, b.Fits := by
  obtain ⟨_, _, _, rfl⟩ := FunctionDraft.build_eq_ok h
  rw [List.forall_mem_singleton]
  cases k <;> exact CodeBlock.fits_nil rfl

theorem fits_addFunction {f : FunctionDecl} (h : k.addFunction n = .ok f) :
    ∀ b ∈ f.statements, b.Fits := by
  obtain ⟨keys, _, h⟩ := bind_eq_ok.mp h
  obtain ⟨block, _, h⟩ := bind_eq_ok.mp h
  obtain ⟨_, _, _, rfl⟩ := FunctionDraft.build_eq_ok h
  rw [List.forall_mem_singleton]
  cases k <;> exact CodeBlock.fits_of_holes rfl (.cons (.type _) .nil)
    (by simp [Argument.fits_type])

theorem fits_container (h : k.container n marker = .ok t) : ∀ b ∈ t.code, b.Fits := by
  obtain ⟨items, hi, h⟩ := bind_eq_ok.mp h
  obtain ⟨snapshot, hs, h⟩ := bind_eq_ok.mp h
  obtain ⟨add, ha, h⟩ := bind_eq_ok.mp h
  obtain ⟨_, _, _, rfl⟩ := TypeDraft.build_eq_ok h
  rw [TypeDecl.code_eq]
  simp only [List.flatMap_cons, List.flatMap_nil, List.append_nil, List.forall_mem_append]
  exact ⟨fits_itemsProperty hi, fits_itemsFunction hs, fits_addFunction ha⟩

end GroupKind

namespace BuilderFile

variable {n : Naming} {schemas : List Schema} {marker : Option ClassName} {t : TypeDecl}
  {file : SourceFile}

theorem fits_storedProperties {ps : List PropertyDecl} (h : storedProperties schemas = .ok ps) :
    ∀ b ∈ ps.flatMap PropertyDecl.code, b.Fits := by
  intro b hb
  obtain ⟨p, hp, hb⟩ := List.mem_flatMap.mp hb
  obtain ⟨s, _, hs⟩ := exists_mem_left (storedProperties_eq_ok.mp h) hp
  exact Schema.fits_storedProperty hs b hb

theorem fits_accessors {fs : List FunctionDecl} (h : accessors schemas = .ok fs) :
    ∀ b ∈ fs.flatMap FunctionDecl.statements, b.Fits := by
  intro b hb
  obtain ⟨f, hf, hb⟩ := List.mem_flatMap.mp hb
  obtain ⟨s, _, hs⟩ := exists_mem_left (accessors_eq_ok.mp h) hf
  exact Schema.fits_accessor hs b hb

theorem fits_constructorArgument (s : Schema) : (constructorArgument s).Fits :=
  CodeBlock.fits_of_holes rfl (.cons (.name _) (.cons (.code _) .nil))
    (by simp [Argument.fits_text, Argument.fits_code, s.fits_valueCode])

theorem fits_constructorCall (c : ClassName) (schemas : List Schema) :
    (constructorCall c schemas).Fits := by
  unfold constructorCall
  split
  · exact CodeBlock.fits_of_holes rfl (.cons (.type _) .nil)
      (by simp [Argument.fits_type])
  · have ha : (Argument.arguments (schemas.map constructorArgument)).Fits := by
      refine Argument.fits_arguments.mpr ?_
      simpa using fun s _ => fits_constructorArgument s
    exact CodeBlock.fits_of_holes rfl
      (.cons (.type _) (.cons (.arguments _) .nil)) (by simp [Argument.fits_type, ha])

theorem fits_buildFunction {c : ClassName} {f : FunctionDecl}
    (h : buildFunction c schemas = .ok f) : ∀ b ∈ f.statements, b.Fits := by
  obtain ⟨_, _, _, rfl⟩ := FunctionDraft.build_eq_ok h
  simpa using fits_constructorCall c schemas

theorem fits_containers {ts : List TypeDecl} (h : value (containers n marker) = .ok ts) :
    ∀ b ∈ ts.flatMap TypeDecl.code, b.Fits := by
  intro b hb
  obtain ⟨t, ht, hb⟩ := List.mem_flatMap.mp hb
  obtain ⟨_, hk⟩ := exists_kind_of_mem_containers h ht
  exact GroupKind.fits_container hk b hb

theorem fits_builderType (h : value (builderType n schemas) = .ok t) : ∀ b ∈ t.code, b.Fits := by
  obtain ⟨functions, build, marker, _, hp, hf, hb, ht, hn⟩ := exists_members_of_builderType h
  rw [TypeDecl.code_eq, ht]
  simp only [List.flatMap_append, List.flatMap_cons, List.flatMap_nil, List.append_nil,
    List.forall_mem_append]
  exact ⟨⟨fits_storedProperties hp, fits_accessors hf, fits_buildFunction hb⟩,
    fits_containers hn⟩

theorem fits_generate (h : value (generate n schemas) = .ok file) : ∀ b ∈ file.code, b.Fits := by
  obtain ⟨_, hf, t, ht, hb⟩ := generate_eq_ok h
  unfold SourceFile.code
  rw [hf, ht]
  simpa using fits_builderType hb

end BuilderFile

namespace RootFile

variable {settings : Settings} {ds : List DomainType} {file : SourceFile}

theorem fits_function {n : Naming} {f : FunctionDecl} (h : function n = .ok f) :
    ∀ b ∈ f.statements, b.Fits := by
  obtain ⟨block, _, h⟩ := bind_eq_ok.mp h
  obtain ⟨_, _, _, rfl⟩ := FunctionDraft.build_eq_ok h
  rw [List.forall_mem_cons, List.forall_mem_cons, List.forall_mem_singleton]
  refine ⟨?_, ?_, ?_⟩
  · exact CodeBlock.fits_of_holes rfl (.cons (.type _) .nil)
      (by simp [Argument.fits_type])
  · exact CodeBlock.fits_nil rfl
  · exact CodeBlock.fits_nil rfl

theorem fits_generate (h : value (generate settings ds) = .ok file) :
    ∀ b ∈ file.code, b.Fits := by
  obtain ⟨_, _, ht, hfs⟩ := generate_eq_ok h
  intro b hb
  unfold SourceFile.code at hb
  rw [ht, List.flatMap_nil, List.nil_append] at hb
  obtain ⟨f, hf, hb⟩ := List.mem_flatMap.mp hb
  obtain ⟨_, _, _, _, hfn⟩ := exists_mem_left hfs hf
  exact fits_function hfn b hb

end RootFile

namespace Pass

variable {settings : Settings} {ds : List DomainType} {result : PassResult}

theorem fits_of_mem_files {file : SourceFile} (h : value (run settings ds) = .ok result)
    (hm : file ∈ result.files) : ∀ b ∈ file.code, b.Fits := by
  cases madeFrom_of_mem_files h hm with
  | domain _ _ _ hg => exact BuilderFile.fits_generate hg
  | roots hg => exact RootFile.fits_generate hg

theorem exists_text_of_mem_files {file : SourceFile} (h : value (run settings ds) = .ok result)
    (hm : file ∈ result.files) : ∃ text, file.text = .ok text :=
  SourceFile.exists_textWith (fits_of_mem_files h hm)

/-- Every file of a pass has a text: in each of its code blocks the arguments fit the holes, at
every depth. -/
theorem run_renders (h : value (run settings ds) = .ok result) :
    ∀ file ∈ result.files, (∀ b ∈ file.code, b.Fits) ∧ ∃ text, file.text = .ok text := by
  intro file hm
  exact ⟨fits_of_mem_files h hm, exists_text_of_mem_files h hm⟩

/-- A domain with groups, whose texts are full of percent signs. -/
def percentDomain : DomainType where
  qualifiedName := "A%"
  isRoot := true
  listGroup := true
  mapGroup := .all
  properties := [
    { name := "b%T", declared := .nominal "C%S" [], default := some ⟨"%S %", .string⟩,
      transform := some { input := some .string, template := some "f(%N) %% %N" } },
    { name := "%%", declared := .collection (.generated "A%" true .all []), nullable := true }]

theorem run_renders_percentDomain :
    ∃ result, value (run (markedSettings "M%") [percentDomain]) = .ok result ∧
      result.files.length = 2 ∧
      ∀ file ∈ result.files,
        (∀ b ∈ file.code, b.Fits) ∧ ∃ text, file.text = .ok text := by
  have hy : yields (value (run (markedSettings "M%") [percentDomain]))
      (fun result => result.files.length == 2) = true := by decide +kernel
  obtain ⟨result, hr, hl⟩ := exists_of_yields hy
  exact ⟨result, hr, beq_iff_eq.mp hl, run_renders hr⟩

end Pass

end FluentKotlin
