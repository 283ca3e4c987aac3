import FluentKotlin.Proofs.Report.Settled
import FluentKotlin.Proofs.Schema.Forms

/-! # Classification of what is denoted

A property whose types are denoted gets a schema, and classification warns at most.
-/

namespace FluentKotlin

variable {ds : List DomainType} {p : DomainProperty}

theorem DomainProperty.Denoted.exists_typeName (h : p.Denoted ds) : ∃ t, p.typeName = .ok t :=
  h.declared.exists_typeAs p.nullable

namespace Schema

open Reporting

variable {known : KnownDomains} {label : Option String}

theorem settles_fallback (h : p.Denoted ds) : Settles (fallback p) :=
  .bind (.liftM h.exists_typeName) fun _ _ => .pure _

theorem settles_ofHint (h : p.Denoted ds) {hint : TransformHint} (ht : p.transform = some hint) :
    Settles (ofHint label p hint) := by
  have hw : ∃ text, optionWritten hint.input = .ok text := by
    cases hi : hint.input with
    | none => exact ⟨_, rfl⟩
    | some r =>
      obtain ⟨t, hn⟩ := (h.transform hint ht r hi).exists_typeName
      exact ⟨t.written, by simp only [optionWritten, hn, Except.map]⟩
  unfold ofHint
  refine .bind (.debug ..) fun _ _ => .bind (.liftM hw) fun _ _ => .bind (.debug ..) fun _ _ => ?_
  cases hi : hint.input with
  | none => exact .bind (.warn rfl) fun _ _ => settles_fallback h
  | some r =>
    have hr := (h.transform hint ht r hi).exists_typeName
    exact .bind (.liftM h.exists_typeName) fun _ _ => .bind (.liftM hr) fun _ _ => .pure _

theorem settles_ofDomain (h : p.Denoted ds) : Settles (ofDomain known p) := by
  unfold ofDomain
  refine .bind (.liftM h.declared.exists_className) fun _ _ => .bind (.debug ..) fun _ _ => ?_
  exact .bind (.liftM h.exists_typeName) fun _ _ => .pure _

theorem settles_isContainer (h : p.Denoted ds) (kind : TypeKind) (name : String) :
    Settles (isContainer label p kind name) := by
  unfold isContainer
  dsimp only
  split
  · exact .bind (.liftM h.declared.exists_typeName) fun _ _ => .bind (.warn rfl) fun _ _ => .pure _
  · exact .pure _

theorem settles_ofMap (h : p.Denoted ds) : Settles (ofMap known label p) := by
  unfold ofMap
  split
  case h_1 key val ha =>
    have hk := h.declared.arguments key (by simp [ha])
    have hv := h.declared.arguments val (by simp [ha])
    refine .bind (.liftM hk.exists_typeName) fun _ _ => .bind (.debug ..) fun _ _ => ?_
    refine .bind (.liftM hv.exists_typeName) fun _ _ => .bind (.debug ..) fun _ _ => ?_
    cases val.isMapGroupValue with
    | true =>
      refine .bind (.debug ..) fun _ _ => .bind (.liftM hv.exists_className) fun _ _ => ?_
      exact .pure _
    | false => exact .bind (.debug ..) fun _ _ => .pure _
  case h_2 =>
    refine .bind (.liftM h.declared.exists_typeName) fun _ _ => .bind (.warn rfl) fun _ _ => ?_
    exact settles_fallback h

theorem settles_ofList (h : p.Denoted ds) : Settles (ofList known label p) := by
  unfold ofList
  split
  case h_1 element ha =>
    have he := h.declared.arguments element (by simp [ha])
    refine .bind (.liftM he.exists_typeName) fun _ _ => .bind (.debug ..) fun _ _ => ?_
    cases element.isGroupElement with
    | true =>
      refine .bind (.debug ..) fun _ _ => .bind (.liftM he.exists_className) fun _ _ => ?_
      exact .pure _
    | false => exact .bind (.debug ..) fun _ _ => .pure _
  case h_2 =>
    refine .bind (.liftM h.declared.exists_typeName) fun _ _ => .bind (.warn rfl) fun _ _ => ?_
    exact settles_fallback h

theorem settles_ofContainer (h : p.Denoted ds) : Settles (ofContainer known label p) := by
  unfold ofContainer
  refine .bind (settles_isContainer h _ _) fun isMap _ => ?_
  cases isMap with
  | true => exact .bind (.debug ..) fun _ _ => settles_ofMap h
  | false =>
    refine .bind (settles_isContainer h _ _) fun isList _ => ?_
    cases isList with
    | true => exact .bind (.debug ..) fun _ _ => settles_ofList h
    | false =>
      refine .bind (.liftM h.declared.exists_typeName) fun _ _ => .bind (.warn rfl) fun _ _ => ?_
      exact settles_fallback h

theorem settles_choose (h : p.Denoted ds) : Settles (choose known label p) := by
  cases choice p with
  | hint ht hc =>
    rw [hc]
    exact settles_ofHint h ht
  | domain _ _ hc =>
    rw [hc]
    exact settles_ofDomain h
  | boolean _ _ hc =>
    rw [hc]
    exact .pure _
  | scalar _ _ hc =>
    rw [hc]
    exact settles_fallback h
  | container _ _ hc =>
    rw [hc]
    exact settles_ofContainer h

theorem settles_classify (h : p.Denoted ds) : Settles (classify known label p) := by
  unfold classify
  refine .bind (.debug ..) fun _ _ => .bind (.liftM h.declared.exists_typeName) fun _ _ => ?_
  refine .bind (.debug ..) fun _ _ => .bind (.debug ..) fun _ _ => ?_
  exact .bind (settles_choose h) fun _ _ => .bind (.debug ..) fun _ _ => .pure _

theorem settles_classifyAll {ps : List DomainProperty} (h : ∀ p ∈ ps, p.Denoted ds) :
    Settles (classifyAll known label ps) := by
  induction ps with
  | nil => exact .pure _
  | cons p ps ih =>
    obtain ⟨hp, hps⟩ := List.forall_mem_cons.mp h
    unfold classifyAll
    exact .bind (settles_classify hp) fun _ _ => .bind (ih hps) fun _ _ => .pure _

theorem settles_ofDomainType (known : KnownDomains) {d : DomainType}
    (h : ∀ p ∈ d.properties, p.Denoted ds) :
    Settles (ofDomainType known d) := by
  unfold ofDomainType
  exact .bind (.debug ..) fun _ _ => settles_classifyAll h

end Schema

end FluentKotlin
