import FluentKotlin.Kotlin.Draft
import FluentKotlin.Proofs.Report.Value

/-! # What is built from a draft

A draft that is built had a name, and a type where the declaration has one. Everything else is taken
over as it stands. A draft that has them is built.
-/

namespace FluentKotlin

theorem DraftHead.requireName_eq_ok {kind : DraftKind} {h : DraftHead} {name : String} :
    h.requireName kind = .ok name ↔ h.name = some name ∧ name ≠ "" := by
  unfold requireName
  cases hn : h.name with
  | none => simp
  | some other =>
    dsimp only
    by_cases he : other = ""
    · rw [if_pos he]
      exact iff_of_false nofun fun ⟨h, hne⟩ => hne (Option.some.inj h ▸ he)
    · simp only [if_neg he, Except.ok.injEq, Option.some.injEq]
      exact ⟨fun h => ⟨h, h ▸ he⟩, And.left⟩

theorem requireType_eq_ok {kind : DraftKind} {head : DraftHead} {type : Option TypeName}
    {t : TypeName} : requireType kind head type = .ok t ↔ type = some t := by
  unfold requireType
  cases type with
  | none => simp
  | some other => simp

theorem PropertyDraft.build_eq_ok {d : PropertyDraft} {p : PropertyDecl} (h : d.build = .ok p) :
    ∃ name type, d.name = some name ∧ name ≠ "" ∧ d.type = some type ∧
      p = { name, type, isMutable := d.isMutable, modifiers := d.modifiers,
            initializer := d.initializer } := by
  unfold build at h
  obtain ⟨name, hn, h⟩ := bind_eq_ok.mp h
  obtain ⟨type, ht, h⟩ := bind_eq_ok.mp h
  cases h
  obtain ⟨hn, hne⟩ := DraftHead.requireName_eq_ok.mp hn
  exact ⟨name, type, hn, hne, requireType_eq_ok.mp ht, rfl⟩

theorem PropertyDraft.build_of_name {d : PropertyDraft} {name : String} {type : TypeName}
    (hn : d.name = some name) (hne : name ≠ "") (ht : d.type = some type) :
    d.build = .ok { name, type, isMutable := d.isMutable, modifiers := d.modifiers,
                    initializer := d.initializer } := by
  unfold build
  rw [DraftHead.requireName_eq_ok.mpr ⟨hn, hne⟩, requireType_eq_ok.mpr ht]
  rfl

theorem ParameterDraft.build_eq_ok {d : ParameterDraft} {p : ParameterDecl}
    (h : d.build = .ok p) :
    ∃ name type, d.name = some name ∧ name ≠ "" ∧ d.type = some type ∧
      p = { name, type, default := d.default, modifiers := d.modifiers } := by
  unfold build at h
  obtain ⟨name, hn, h⟩ := bind_eq_ok.mp h
  obtain ⟨type, ht, h⟩ := bind_eq_ok.mp h
  cases h
  obtain ⟨hn, hne⟩ := DraftHead.requireName_eq_ok.mp hn
  exact ⟨name, type, hn, hne, requireType_eq_ok.mp ht, rfl⟩

theorem ParameterDraft.build_of_name {d : ParameterDraft} {name : String} {type : TypeName}
    (hn : d.name = some name) (hne : name ≠ "") (ht : d.type = some type) :
    d.build = .ok { name, type, default := d.default, modifiers := d.modifiers } := by
  unfold build
  rw [DraftHead.requireName_eq_ok.mpr ⟨hn, hne⟩, requireType_eq_ok.mpr ht]
  rfl

theorem FunctionDraft.build_eq_ok {d : FunctionDraft} {f : FunctionDecl} (h : d.build = .ok f) :
    ∃ name, d.name = some name ∧ name ≠ "" ∧
      f = { name, parameters := d.parameters, returns := d.returns, overridden := d.overridden,
            doc := d.doc, annotations := d.annotations, statements := d.statements,
            modifiers := overrideModifiers d.overridden d.modifiers } := by
  unfold build at h
  obtain ⟨name, hn, h⟩ := bind_eq_ok.mp h
  cases h
  obtain ⟨hn, hne⟩ := DraftHead.requireName_eq_ok.mp hn
  exact ⟨name, hn, hne, rfl⟩

theorem FunctionDraft.build_of_name {d : FunctionDraft} {name : String} (hn : d.name = some name)
    (hne : name ≠ "") :
    d.build = .ok { name, parameters := d.parameters, returns := d.returns,
                    overridden := d.overridden, doc := d.doc, annotations := d.annotations,
                    statements := d.statements,
                    modifiers := overrideModifiers d.overridden d.modifiers } := by
  unfold build
  rw [DraftHead.requireName_eq_ok.mpr ⟨hn, hne⟩]
  rfl

theorem TypeDraft.build_eq_ok {d : TypeDraft} {t : TypeDecl} (h : d.build = .ok t) :
    ∃ name, d.name = some name ∧ name ≠ "" ∧
      t = { name, superType := d.superType, typeVariables := d.typeVariables,
            annotations := d.annotations, properties := d.properties, functions := d.functions,
            nested := d.nested, modifiers := d.modifiers } := by
  unfold build at h
  obtain ⟨name, hn, h⟩ := bind_eq_ok.mp h
  cases h
  obtain ⟨hn, hne⟩ := DraftHead.requireName_eq_ok.mp hn
  exact ⟨name, hn, hne, rfl⟩

theorem TypeDraft.build_of_name {d : TypeDraft} {name : String} (hn : d.name = some name)
    (hne : name ≠ "") :
    d.build = .ok { name, superType := d.superType, typeVariables := d.typeVariables,
                    annotations := d.annotations, properties := d.properties,
                    functions := d.functions, nested := d.nested, modifiers := d.modifiers } := by
  unfold build
  rw [DraftHead.requireName_eq_ok.mpr ⟨hn, hne⟩]
  rfl

theorem AliasDraft.build_eq_ok {d : AliasDraft} {a : AliasDecl} (h : d.build = .ok a) :
    ∃ name target, d.name = some name ∧ name ≠ "" ∧ d.type = some target ∧
      a = { name, target, typeVariables := d.typeVariables } := by
  unfold build at h
  obtain ⟨name, hn, h⟩ := bind_eq_ok.mp h
  obtain ⟨target, ht, h⟩ := bind_eq_ok.mp h
  cases h
  obtain ⟨hn, hne⟩ := DraftHead.requireName_eq_ok.mp hn
  exact ⟨name, target, hn, hne, requireType_eq_ok.mp ht, rfl⟩

theorem FileDraft.build_eq_ok {d : FileDraft} {f : SourceFile} (h : d.build = .ok f) :
    d.className = some f.className ∧ f.aliases = d.aliases ∧ f.types = d.types ∧
      f.functions = d.functions := by
  unfold build at h
  cases hc : d.className with
  | none =>
    rw [hc] at h
    cases h
  | some c =>
    rw [hc] at h
    obtain ⟨imports, _, h⟩ := bind_eq_ok.mp h
    cases h
    exact ⟨rfl, rfl, rfl, rfl⟩

end FluentKotlin
