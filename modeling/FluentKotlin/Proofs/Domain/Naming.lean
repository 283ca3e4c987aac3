import FluentKotlin.Domain.Naming
import FluentKotlin.Proofs.Domain.Denotation

/-! # Names that a domain gives

A builder has its name from the pass that declares it, and from every reference to its domain. Both
put it into the package of the domain and name it after the domain. The pass declares it outside of
all classes, while a reference looks for it beside the class of the domain, so the two are one class
exactly where that class lies in no other. The functions that make values of the domain have a name
wherever the domain has a class.
-/

namespace FluentKotlin

variable {settings : Settings} {d : DomainType} {n : Naming} {c : ClassName}

theorem asRef_standsFor (d : DomainType) : d.asRef.StandsFor d := ⟨rfl, rfl, rfl, rfl⟩

theorem naming_of_className (settings : Settings) (h : d.className = .ok c) :
    Naming.ofDomain settings d = .ok ⟨settings, d, c⟩ := by
  unfold Naming.ofDomain
  rw [h]
  rfl

theorem naming_eq_ok (h : Naming.ofDomain settings d = .ok n) :
    n.domain = d ∧ d.className = .ok n.domainClass := by
  unfold Naming.ofDomain at h
  obtain ⟨c, hc, h⟩ := bind_eq_ok.mp h
  cases h
  exact ⟨rfl, hc⟩

theorem exists_naming (settings : Settings) (h : ClassName.IsName d.qualifiedName) :
    ∃ n, Naming.ofDomain settings d = .ok n ∧ n.settings = settings := by
  obtain ⟨c, hc⟩ := ClassName.exists_ofQualified h
  exact ⟨_, naming_of_className settings hc, rfl⟩

theorem lowerChar_ne_nil (c : Char) : Text.lowerChar c ≠ [] := by
  have hexpansion : ∀ e ∈ Text.lowerExpansions, e.2.map Char.ofNat ≠ [] := by decide
  unfold Text.lowerChar
  rcases Text.caseImage_cases Text.lowerSpans Text.lowerExpansions c with ⟨e, he, h⟩ | ⟨_, _, h⟩ | h
  · rw [h]
    exact hexpansion e he
  · rw [h]
    exact List.cons_ne_nil _ _
  · rw [h]
    exact List.cons_ne_nil _ _

theorem lowerFirst_ne_empty {name : String} (h : name ≠ "") : lowerFirst name ≠ "" := by
  unfold lowerFirst
  cases hname : name.toList with
  | nil => exact absurd (String.toList_eq_nil_iff.mp hname) h
  | cons c cs =>
    intro he
    have hl := congrArg String.toList he
    rw [String.toList_ofList] at hl
    exact lowerChar_ne_nil c (List.append_eq_nil_iff.mp hl).1

theorem functionName_ne_empty (h : Naming.ofDomain settings d = .ok n) : n.functionName ≠ "" := by
  obtain ⟨_, hc⟩ := naming_eq_ok h
  exact lowerFirst_ne_empty (ClassName.simpleName_ne_empty hc)

/-- A reference looks for the builder inside the classes that enclose the domain. -/
theorem builderClassFor_domainClass (n : Naming) :
    builderClassFor n.domainClass = { n.builderClass with enclosing := n.domainClass.enclosing } :=
  rfl

theorem builderClassFor_domainClass_eq_iff (n : Naming) :
    builderClassFor n.domainClass = n.builderClass ↔ n.domainClass.enclosing = [] := by
  rw [builderClassFor_domainClass]
  constructor
  · intro h
    exact congrArg ClassName.enclosing h
  · intro h
    rw [h]
    rfl

/-- The builder that references to a domain look for and the builder that the pass declares have one
package and one simple name. They are one class exactly where no segment of the name of the domain
but its last is a capital one. -/
theorem builderClassFor_eq_builderClass_iff (settings : Settings)
    (h : ClassName.IsName d.qualifiedName) :
    ∃ c n, d.asRef.className = .ok c ∧ Naming.ofDomain settings d = .ok n ∧
      (builderClassFor c).package = n.builderClass.package ∧
      (builderClassFor c).simpleName = n.builderClass.simpleName ∧
      (builderClassFor c = n.builderClass ↔
        ∀ s ∈ (ClassName.nameSegments d.qualifiedName).dropLast, startsUppercase s = false) := by
  obtain ⟨c, hc⟩ := ClassName.exists_ofQualified h
  obtain ⟨before, hs⟩ := ClassName.exists_shared hc
  have href : d.asRef.className = .ok c := ((asRef_standsFor d).className h).trans hc
  refine ⟨c, _, href, naming_of_className settings hc, rfl, rfl, ?_⟩
  rw [← hs.enclosing_eq_nil_iff]
  exact builderClassFor_domainClass_eq_iff ⟨settings, d, c⟩

def packageSettings : Settings := { projectRoot := "io.x", contractPackage := "io.y" }

theorem builderClassFor_eq_builderClass_passenger :
    ClassName.IsName "io.x.Passenger" ∧
      ∃ c n, (DomainType.asRef { qualifiedName := "io.x.Passenger" }).className = .ok c ∧
        Naming.ofDomain packageSettings { qualifiedName := "io.x.Passenger" } = .ok n ∧
        builderClassFor c = n.builderClass := by
  have h : ClassName.IsName "io.x.Passenger" := by
    unfold ClassName.IsName
    decide
  obtain ⟨c, n, hc, hn, _, _, hiff⟩ :=
    builderClassFor_eq_builderClass_iff (d := { qualifiedName := "io.x.Passenger" })
      packageSettings h
  exact ⟨h, c, n, hc, hn, hiff.mpr (by decide)⟩

/-- References to a class inside another look for a builder inside that other, where the pass
declares none. -/
theorem builderClassFor_ne_builderClass_inner :
    ∃ c n, (DomainType.asRef { qualifiedName := "io.x.Outer.Inner" }).className = .ok c ∧
      Naming.ofDomain packageSettings { qualifiedName := "io.x.Outer.Inner" } = .ok n ∧
      builderClassFor c = ⟨"io.x", ["Outer"], "InnerDslBuilder", false⟩ ∧
      n.builderClass = ⟨"io.x", [], "InnerDslBuilder", false⟩ ∧
      builderClassFor c ≠ n.builderClass := by
  have hc : ClassName.ofQualified "io.x.Outer.Inner" =
      .ok ⟨"io.x", ["Outer"], "Inner", false⟩ := by decide +kernel
  exact ⟨_, _, hc, naming_of_className packageSettings hc, rfl, rfl, by decide⟩

end FluentKotlin
