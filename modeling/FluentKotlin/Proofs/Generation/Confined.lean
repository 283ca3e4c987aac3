import FluentKotlin.Generation.Pass
import FluentKotlin.Proofs.Domain.Naming
import FluentKotlin.Proofs.Schema.Forms
import FluentKotlin.Proofs.Schema.Total

/-! # Confined faults

Generating a file is confined when it can only fail on a declaration, so that the failure stays with
the file. This holds for the files of all domains of a closed document, given that the text for the
marker class is a name.
-/

namespace FluentKotlin

open Reporting

namespace Generating

variable {α β : Type}

/-- No name is in the way of a result, and no report on the way to it is an error. -/
structure Confined (x : Generating α) : Prop where
  named : ∀ e, value x ≠ .error (.name e)
  mild : Says Report.Mild x

theorem Confined.pure (a : α) : Confined (Pure.pure a : Generating α) where
  named e h := by cases h
  mild := .of_nil rfl

theorem Confined.debug (tier : Int) (branch : Bool) (message : String) :
    Confined (Reporting.debug tier branch message : Generating Unit) where
  named e h := by cases h
  mild := .say trivial

theorem Confined.ofDecl (x : Except DeclError α) : Confined (Generating.ofDecl x) where
  named e h := by
    obtain ⟨d, _, hd⟩ := mapError_eq_error.mp h
    cases hd
  mild := .of_nil rfl

theorem Confined.of_settles {x : Reporting NameError α} (h : Settles x) :
    Confined (Reporting.mapError Fault.name x) where
  named e he := by
    obtain ⟨a, ha⟩ := h.returns
    rw [value_mapError, ha] at he
    cases he
  mild := h.mild

theorem Confined.ofName {x : Except NameError α} (h : ∃ a, x = .ok a) :
    Confined (Generating.ofName x) where
  named e he := by
    obtain ⟨a, rfl⟩ := h
    cases he
  mild := .of_nil rfl

theorem Confined.bind {x : Generating α} {f : α → Generating β} (hx : Confined x)
    (hf : ∀ a, value x = .ok a → Confined (f a)) : Confined (x >>= f) where
  named e h := by
    cases ha : value x with
    | ok a =>
      rw [value_bind, ha] at h
      exact (hf a ha).named e h
    | error fault =>
      rw [value_bind_of_error ha] at h
      cases h
      exact hx.named e ha
  mild := hx.mild.bind fun a ha => (hf a ha).mild

theorem value_attempt (x : Generating α) :
    value x.attempt = match value x with
      | .ok a => .ok (.ok a)
      | .error (.declaration e) => .ok (.error e)
      | .error (.name e) => .error e := by
  unfold value attempt
  cases x.run with
  | mk v reports =>
    cases v with
    | ok a => rfl
    | error fault => cases fault <;> rfl

theorem value_attempt_cases {x : Generating α} {r : Except DeclError α}
    (h : value x.attempt = .ok r) :
    (∃ a, value x = .ok a ∧ r = .ok a) ∨
      ∃ e, value x = .error (.declaration e) ∧ r = .error e := by
  rw [value_attempt] at h
  cases hx : value x with
  | ok a =>
    rw [hx] at h
    cases h
    exact Or.inl ⟨a, rfl, rfl⟩
  | error fault =>
    rw [hx] at h
    cases fault with
    | name e => cases h
    | declaration e =>
      cases h
      exact Or.inr ⟨e, rfl, rfl⟩

@[simp] theorem reports_attempt (x : Generating α) : reports x.attempt = reports x := by
  unfold reports attempt
  cases hx : x.run with
  | mk v reports =>
    cases v with
    | ok a => rfl
    | error fault => cases fault <;> rfl

/-- What is confined comes to a result or to a fault of a declaration. -/
theorem Confined.value_cases {x : Generating α} (h : Confined x) :
    (∃ a, value x = .ok a) ∨ ∃ e, value x = .error (.declaration e) := by
  cases hx : value x with
  | ok a => exact Or.inl ⟨a, rfl⟩
  | error fault =>
    cases fault with
    | name e => exact absurd hx (h.named e)
    | declaration e => exact Or.inr ⟨e, rfl⟩

end Generating

open Generating

/-- The marker class is not asked for, or the text for it is a name. -/
def Settings.MarkerNamed (settings : Settings) : Prop :=
  ∀ m, settings.marker = some m → ClassName.IsName m

theorem exists_markerClass {settings : Settings} (h : settings.MarkerNamed) :
    ∃ c, markerClass settings.marker = .ok c := by
  cases hm : settings.marker with
  | none => exact ⟨none, rfl⟩
  | some m =>
    obtain ⟨c, hc⟩ := ClassName.exists_ofQualified (h m hm)
    unfold markerClass
    dsimp only
    split
    · exact ⟨none, rfl⟩
    · exact ⟨some c, by rw [hc]; rfl⟩

theorem GroupKind.confined_container? (k : GroupKind) (n : Naming) (marker : Option ClassName) :
    Confined (k.container? n marker) := by
  unfold GroupKind.container?
  refine .bind (.debug ..) fun _ _ => ?_
  split
  · exact .bind (.debug ..) fun _ _ => .bind (.ofDecl _) fun _ _ => .pure _
  · exact .pure _

namespace BuilderFile

variable {ds : List DomainType} {n : Naming} {schemas : List Schema}

theorem confined_containers (n : Naming) (marker : Option ClassName) :
    Confined (containers n marker) := by
  unfold containers
  refine .bind (GroupKind.list.confined_container? n marker) fun _ _ => ?_
  exact .bind (GroupKind.map.confined_container? n marker) fun _ _ => .pure _

theorem confined_builderType (hm : n.settings.MarkerNamed) :
    Confined (builderType n schemas) := by
  unfold builderType
  refine .bind (.ofName (exists_markerClass hm)) fun marker _ => ?_
  dsimp only
  split
  on_goal 1 => refine .bind (.debug ..) fun _ _ => ?_
  all_goals
    refine .bind (.debug ..) fun _ _ => .bind (.ofDecl _) fun _ _ => .bind (.debug ..) fun _ _ => ?_
    refine .bind (.ofDecl _) fun _ _ => .bind (.ofDecl _) fun _ _ => ?_
    exact .bind (confined_containers n marker) fun _ _ => .ofDecl _

theorem confined_scopeAliases (scopes : List ClassName) : Confined (scopeAliases scopes) := by
  induction scopes with
  | nil => exact .pure _
  | cons scope scopes ih =>
    unfold scopeAliases
    refine .bind (.debug ..) fun _ _ => .bind (.ofDecl _) fun _ _ => ?_
    exact .bind ih fun _ _ => .pure _

theorem confined_checkImports (package : String) (cs : List Check) :
    Confined (checkImports package schemas cs) := by
  induction cs with
  | nil => exact .pure _
  | cons c cs ih =>
    unfold checkImports
    exact .bind (.debug ..) fun _ _ => .bind ih fun _ _ => .pure _

def DefaultsDenoted (ds : List DomainType) (schemas : List Schema) : Prop :=
  ∀ s ∈ schemas, ∀ hint, s.default = some hint → hint.valueType.Denoted ds

theorem exists_defaultImport {default : Option DefaultHint}
    (h : ∀ hint, default = some hint → hint.valueType.Denoted ds) (package : String) :
    ∃ is, defaultImport package default = .ok is := by
  cases default with
  | none => exact ⟨[], rfl⟩
  | some hint =>
    obtain ⟨c, hc⟩ := (h hint rfl).exists_className
    unfold defaultImport
    dsimp only
    split
    · rw [hc]
      exact ⟨_, rfl⟩
    · exact ⟨_, rfl⟩

theorem exists_defaultImports (h : DefaultsDenoted ds schemas) (package : String) :
    ∃ is, defaultImports package schemas = .ok is := by
  induction schemas with
  | nil => exact ⟨[], rfl⟩
  | cons s ss ih =>
    obtain ⟨is, hi⟩ := exists_defaultImport (h s List.mem_cons_self) package
    obtain ⟨js, hj⟩ := ih fun t ht => h t (List.mem_cons_of_mem _ ht)
    unfold defaultImports
    rw [hi, hj]
    exact ⟨_, rfl⟩

theorem confined_generate (hm : n.settings.MarkerNamed) (hd : DefaultsDenoted ds schemas) :
    Confined (generate n schemas) := by
  unfold generate
  refine .bind (.debug ..) fun _ _ => .bind (.debug ..) fun _ _ => ?_
  refine .bind (.debug ..) fun _ _ => .bind (.debug ..) fun _ _ => ?_
  refine .bind (confined_builderType hm) fun _ _ => .bind (confined_scopeAliases _) fun _ _ => ?_
  refine .bind (confined_checkImports _ _) fun _ _ => ?_
  refine .bind (.ofName (exists_defaultImports hd _)) fun _ _ => ?_
  exact .bind (.ofDecl _) fun _ _ => .bind (.debug ..) fun _ _ => .pure _

theorem defaultsDenoted_of_follows {known : KnownDomains} {ps : List DomainProperty}
    (hp : ∀ p ∈ ps, p.Denoted ds) (h : List.Forall₂ (Schema.Follows known) ps schemas) :
    DefaultsDenoted ds schemas := by
  induction h with
  | nil => exact List.forall_mem_nil _
  | cons hf _ ih =>
    obtain ⟨hd, hps⟩ := List.forall_mem_cons.mp hp
    obtain ⟨form, rfl, _⟩ := hf
    exact List.forall_mem_cons.mpr ⟨hd.default, ih hps⟩

end BuilderFile

namespace RootFile

variable {ds : List DomainType}

theorem confined_functions (settings : Settings) (h : ∀ d ∈ ds, ClassName.IsName d.qualifiedName) :
    Confined (functions settings ds) := by
  induction ds with
  | nil => exact .pure _
  | cons d ds ih =>
    obtain ⟨hd, hds⟩ := List.forall_mem_cons.mp h
    obtain ⟨n, hn, _⟩ := exists_naming settings hd
    unfold functions
    refine .bind (.ofName ⟨n, hn⟩) fun _ _ => .bind (.ofDecl _) fun _ _ => ?_
    exact .bind (.debug ..) fun _ _ => .bind (ih hds) fun _ _ => .pure _

theorem confined_generate (settings : Settings)
    (h : ∀ d ∈ ds, ClassName.IsName d.qualifiedName) :
    Confined (generate settings ds) := by
  unfold generate
  refine .bind (confined_functions settings h) fun _ _ => .bind (.ofDecl _) fun _ _ => ?_
  exact .bind (.debug ..) fun _ _ => .pure _

end RootFile

namespace Pass

variable {ds : List DomainType} {d : DomainType} {n : Naming}

theorem confined_domainFile (known : KnownDomains) (hm : n.settings.MarkerNamed)
    (hp : ∀ p ∈ d.properties, p.Denoted ds) : Confined (domainFile known d n) := by
  unfold domainFile
  refine .bind (.of_settles (Schema.settles_ofDomainType known hp)) fun schemas hs => ?_
  have hf := Schema.follows_ofDomainType (mapError_eq_ok.mp hs)
  exact BuilderFile.confined_generate hm (BuilderFile.defaultsDenoted_of_follows hp hf)

end Pass

end FluentKotlin
