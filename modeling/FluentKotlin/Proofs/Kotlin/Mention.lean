import FluentKotlin.Kotlin.Draft

/-! # Mentioned classes

A class is mentioned where it occurs in a type, at any depth, and a file mentions the classes in the
types, annotations and code of its declarations. Going over a file finds exactly the classes that
it mentions.
-/

namespace FluentKotlin

/-- The class occurs in the type, with or without a null mark of its own. -/
inductive TypeName.Mentions (c : ClassName) : TypeName → Prop where
  | named {e : ClassName} : e.nonNull = c → Mentions c (.named e)
  | raw {e : ClassName} {arguments : List TypeName} {nullable : Bool} :
      e.nonNull = c → Mentions c (.applied e arguments nullable)
  | argument {e : ClassName} {arguments : List TypeName} {nullable : Bool} {t : TypeName} :
      t ∈ arguments → Mentions c t → Mentions c (.applied e arguments nullable)
  | receiver {t : TypeName} {parameters : List TypeName} {returns : Option TypeName}
      {nullable : Bool} : Mentions c t → Mentions c (.lambda (some t) parameters returns nullable)
  | parameter {receiver : Option TypeName} {parameters : List TypeName}
      {returns : Option TypeName} {nullable : Bool} {t : TypeName} :
      t ∈ parameters → Mentions c t → Mentions c (.lambda receiver parameters returns nullable)
  | returned {receiver : Option TypeName} {parameters : List TypeName} {t : TypeName}
      {nullable : Bool} : Mentions c t → Mentions c (.lambda receiver parameters (some t) nullable)
  | unit {receiver : Option TypeName} {parameters : List TypeName} {nullable : Bool} :
      unitClass = c → Mentions c (.lambda receiver parameters none nullable)

variable {c : ClassName}

namespace TypeName

mutual

theorem mentions_of_mem_references : ∀ {t : TypeName}, c ∈ t.references → t.Mentions c
  | named e, h => by
    rw [references, List.mem_singleton] at h
    exact .named h.symm
  | applied e arguments nullable, h => by
    rw [references, List.mem_cons] at h
    rcases h with rfl | h
    · exact .raw rfl
    · obtain ⟨t, ht, hc⟩ := exists_of_mem_referencesAll h
      exact .argument ht hc
  | typeVariable name nullable, h => by
    rw [references] at h
    cases h
  | lambda receiver parameters returns nullable, h => by
    rw [references, List.mem_append, List.mem_append] at h
    rcases h with h | h | h
    · cases receiver with
      | none =>
        rw [referencesReceiver] at h
        cases h
      | some t =>
        rw [referencesReceiver] at h
        exact .receiver (mentions_of_mem_references h)
    · obtain ⟨t, ht, hc⟩ := exists_of_mem_referencesAll h
      exact .parameter ht hc
    · cases returns with
      | none =>
        rw [referencesReturn, List.mem_singleton] at h
        exact .unit h.symm
      | some t =>
        rw [referencesReturn] at h
        exact .returned (mentions_of_mem_references h)

theorem exists_of_mem_referencesAll : ∀ {ts : List TypeName}, c ∈ referencesAll ts →
    ∃ t ∈ ts, t.Mentions c
  | [], h => by
    rw [referencesAll] at h
    cases h
  | t :: ts, h => by
    rw [referencesAll, List.mem_append] at h
    rcases h with h | h
    · exact ⟨t, List.mem_cons_self, mentions_of_mem_references h⟩
    · obtain ⟨u, hu, hc⟩ := exists_of_mem_referencesAll h
      exact ⟨u, List.mem_cons_of_mem t hu, hc⟩

end

theorem mem_references {t : TypeName} : c ∈ t.references ↔ t.Mentions c := by
  constructor
  · exact mentions_of_mem_references
  · intro h
    induction h with
    | named he => simp [references, he]
    | raw he => simp [references, he]
    | argument ht _ ih =>
      rw [references, referencesAll_eq_flatMap]
      exact List.mem_cons_of_mem _ (List.mem_flatMap.mpr ⟨_, ht, ih⟩)
    | receiver _ ih => simp [references, referencesReceiver, ih]
    | parameter ht _ ih =>
      rw [references, referencesAll_eq_flatMap, List.mem_append, List.mem_append]
      exact Or.inr (Or.inl (List.mem_flatMap.mpr ⟨_, ht, ih⟩))
    | returned _ ih => simp [references, referencesReturn, ih]
    | unit he => simp [references, referencesReturn, he]

end TypeName

inductive CodeBlock.Mentions (c : ClassName) : CodeBlock → Prop where
  | type {b : CodeBlock} {t : TypeName} : .type t ∈ b.arguments → t.Mentions c → Mentions c b
  | inside {b e : CodeBlock} {a : Argument} :
      a ∈ b.arguments → e ∈ a.blocks → Mentions c e → Mentions c b

theorem Argument.mem_references {a : Argument} :
    c ∈ a.references ↔
      (∃ t, a = .type t ∧ t.Mentions c) ∨ ∃ b ∈ a.blocks, c ∈ b.references := by
  cases a with
  | scalar | declaration => simp [references, blocks]
  | type t => simp [references, blocks, TypeName.mem_references]
  | code b => simp [references, blocks]
  | arguments bs => simp [references, blocks, codeReferences_eq_flatMap]

theorem CodeBlock.mem_references {b : CodeBlock} : c ∈ b.references ↔ b.Mentions c := by
  induction b using nested_induction with
  | step b ih =>
    rw [references_eq_flatMap, List.mem_flatMap]
    constructor
    · rintro ⟨a, ha, h⟩
      rcases Argument.mem_references.mp h with ⟨t, rfl, ht⟩ | ⟨e, he, hc⟩
      · exact .type ha ht
      · exact .inside ha he ((ih a ha e he).mp hc)
    · rintro (⟨ha, ht⟩ | ⟨ha, he, hc⟩)
      · exact ⟨_, ha, Argument.mem_references.mpr (Or.inl ⟨_, rfl, ht⟩)⟩
      · exact ⟨_, ha, Argument.mem_references.mpr (Or.inr ⟨_, he, (ih _ ha _ he).mpr hc⟩)⟩

def PropertyDecl.Mentions (p : PropertyDecl) (c : ClassName) : Prop :=
  p.type.Mentions c ∨ ∃ b ∈ p.initializer, b.Mentions c

def FunctionDecl.Mentions (f : FunctionDecl) (c : ClassName) : Prop :=
  (∃ p ∈ f.parameters, p.type.Mentions c) ∨ (∃ t ∈ f.returns, t.Mentions c) ∨
    c ∈ f.annotations ∨ ∃ b ∈ f.statements, b.Mentions c

inductive TypeDecl.Mentions (c : ClassName) : TypeDecl → Prop where
  | superType {t : TypeDecl} {s : TypeName} : t.superType = some s → s.Mentions c → Mentions c t
  | annotated {t : TypeDecl} : c ∈ t.annotations → Mentions c t
  | property {t : TypeDecl} {p : PropertyDecl} :
      p ∈ t.properties → p.Mentions c → Mentions c t
  | function {t : TypeDecl} {f : FunctionDecl} : f ∈ t.functions → f.Mentions c → Mentions c t
  | nested {t u : TypeDecl} : u ∈ t.nested → Mentions c u → Mentions c t

theorem mem_optionReferences {t : Option TypeName} :
    c ∈ optionReferences t ↔ ∃ u ∈ t, u.Mentions c := by
  cases t <;> simp [optionReferences, TypeName.mem_references]

theorem PropertyDecl.mem_references {p : PropertyDecl} : c ∈ p.references ↔ p.Mentions c := by
  unfold references Mentions
  rw [List.mem_append, TypeName.mem_references]
  cases p.initializer <;> simp [initializerReferences, CodeBlock.mem_references]

theorem FunctionDecl.mem_references {f : FunctionDecl} : c ∈ f.references ↔ f.Mentions c := by
  unfold references Mentions ParameterDecl.references
  simp only [List.mem_append, List.mem_flatMap, TypeName.mem_references, mem_optionReferences,
    CodeBlock.mem_references, or_assoc]

/-- What is found in a type, where a type inside of it is not yet looked into. -/
theorem TypeDecl.mem_references_iff {t : TypeDecl} :
    c ∈ t.references ↔
      (∃ s ∈ t.superType, s.Mentions c) ∨ c ∈ t.annotations ∨
        (∃ p ∈ t.properties, p.Mentions c) ∨ (∃ f ∈ t.functions, f.Mentions c) ∨
        ∃ u ∈ t.nested, c ∈ u.references := by
  cases t
  rw [references, nestedReferences_eq_flatMap]
  simp only [List.mem_append, List.mem_flatMap, mem_optionReferences,
    PropertyDecl.mem_references, FunctionDecl.mem_references, or_assoc]

theorem TypeDecl.mem_references {t : TypeDecl} : c ∈ t.references ↔ t.Mentions c := by
  induction t using nested_induction with
  | step t ih =>
    rw [mem_references_iff]
    constructor
    · rintro (⟨s, hs, hc⟩ | h | ⟨p, hp, hc⟩ | ⟨f, hf, hc⟩ | ⟨u, hu, hc⟩)
      · exact .superType hs hc
      · exact .annotated h
      · exact .property hp hc
      · exact .function hf hc
      · exact .nested hu ((ih u hu).mp hc)
    · rintro (⟨hs, hc⟩ | h | ⟨hp, hc⟩ | ⟨hf, hc⟩ | ⟨hu, hc⟩)
      · exact Or.inl ⟨_, hs, hc⟩
      · exact Or.inr (Or.inl h)
      · exact Or.inr (Or.inr (Or.inl ⟨_, hp, hc⟩))
      · exact Or.inr (Or.inr (Or.inr (Or.inl ⟨_, hf, hc⟩)))
      · exact Or.inr (Or.inr (Or.inr (Or.inr ⟨_, hu, (ih _ hu).mpr hc⟩)))

namespace FileDraft

variable {d : FileDraft}

def Mentions (d : FileDraft) (c : ClassName) : Prop :=
  (∃ a ∈ d.aliases, a.target.Mentions c) ∨ (∃ t ∈ d.types, t.Mentions c) ∨
    ∃ f ∈ d.functions, f.Mentions c

theorem mem_references : c ∈ d.references ↔ d.Mentions c := by
  unfold references Mentions AliasDecl.references
  simp only [List.mem_append, List.mem_flatMap, TypeName.mem_references, TypeDecl.mem_references,
    FunctionDecl.mem_references, or_assoc]

end FileDraft

end FluentKotlin
