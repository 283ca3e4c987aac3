import FluentKotlin.Document.Basic
import FluentKotlin.Proofs.Report.Value
import FluentKotlin.Proofs.Value.Renamed

/-! # Names inside of documents

What is read from a document does not depend on the names of the collections in it that contain
themselves.
-/

namespace FluentKotlin

open Value

variable {σ : Equiv.Perm Nat}

theorem entryOf_rename (place : String) (v : Value) :
    entryOf place (v.rename σ) = (entryOf place v).map (renameEntries σ) := by
  unfold entryOf
  rw [opened_rename]
  cases v.opened <;> rfl

theorem mappingOf_rename (place : String) (v : Value) :
    mappingOf place (v.rename σ) = (mappingOf place v).map (renameEntries σ) := by
  unfold mappingOf
  rw [opened_rename]
  cases v.opened with
  | scalar s => cases s <;> rfl
  | _ => rfl

theorem itemsOf_rename (place : String) (v : Value) :
    itemsOf place (v.rename σ) = (itemsOf place v).map (renameItems σ) := by
  unfold itemsOf
  rw [opened_rename]
  cases v.opened with
  | scalar s => cases s <;> rfl
  | _ => rfl

theorem mappingField_renameEntries (key : String) (entries : Entries) :
    mappingField key (renameEntries σ entries) =
      (mappingField key entries).map (renameEntries σ) := by
  unfold mappingField
  rw [fieldOrNull_renameEntries, mappingOf_rename]

theorem shown_rename (v : Value) : shown (v.rename σ) = shown v := by
  unfold shown
  rw [Value.shown_rename]

theorem textField_renameEntries (key : String) (entries : Entries) :
    textField key (renameEntries σ entries) = textField key entries := by
  unfold textField textOf
  rw [fieldOrNull_renameEntries, isVoid_rename, shown_rename]

theorem requiredText_renameEntries (place key : String) (entries : Entries) :
    requiredText place key (renameEntries σ entries) = requiredText place key entries := by
  unfold requiredText
  rw [textField_renameEntries]

theorem truth?_rename (yes no : List String) (v : Value) :
    truth? yes no (v.rename σ) = truth? yes no v := by
  have hw : wordTruth? yes no (v.rename σ) = wordTruth? yes no v := by
    unfold wordTruth?
    rw [written_rename]
  cases v with
  | scalar s => rfl
  | _ => exact hw

theorem flagField_renameEntries (place key : String) (entries : Entries) :
    flagField place key (renameEntries σ entries) = flagField place key entries := by
  unfold flagField
  dsimp only
  rw [fieldOrNull_renameEntries, shown_rename, truth?_rename, quoted_rename]

theorem MapGroup.ofValue_rename (v : Value) : ofValue (v.rename σ) = ofValue v := by
  have hw := written_rename (σ := σ) v
  cases v with
  | scalar s => rfl
  | set members => rfl
  | _ =>
    rw [rename] at hw ⊢
    unfold ofValue
    dsimp only
    rw [hw]

theorem literalOf_rename (v : Value) : literalOf (v.rename σ) = literalOf v := by
  have hs := shown_rename (σ := σ) v
  cases v with
  | scalar s => rfl
  | _ => exact hs

namespace DefaultHint

theorem typeOf_rename (scope : TypeScope) (declared : TypeRef) (v : Value) :
    typeOf scope declared (v.rename σ) = typeOf scope declared v := by
  unfold typeOf
  rw [isVoid_rename, shown_rename]

theorem ofValue_rename (scope : TypeScope) (place : String) (declared : TypeRef)
    (default : Value) :
    ofValue scope place declared (default.rename σ) = ofValue scope place declared default := by
  unfold ofValue
  rw [opened_rename, literalOf_rename]
  cases default.opened with
  | scalar s => rfl
  | mapping entries =>
    rw [rename]
    dsimp only
    rw [field?_renameEntries, fieldOrNull_renameEntries, typeOf_rename]
    cases field? "value" entries with
    | none => rfl
    | some v =>
      dsimp only [Option.map_some]
      rw [literalOf_rename]
  | _ => rfl

end DefaultHint

namespace DomainProperty

theorem ofEntry_rename (scope : TypeScope) (transforms : Transforms) (place : String)
    (ordinal : Nat) (isLast : Bool) (v : Value) :
    ofEntry scope transforms place ordinal isLast (v.rename σ) =
      ofEntry scope transforms place ordinal isLast v := by
  unfold ofEntry
  rw [entryOf_rename]
  cases entryOf place v with
  | error e => rfl
  | ok entries =>
    rw [Except.map, ok_bind, ok_bind, requiredText_renameEntries, requiredText_renameEntries,
      fieldOrNull_renameEntries]
    simp only [DefaultHint.ofValue_rename]

theorem ofEntries_renameItems (scope : TypeScope) (transforms : Transforms) (place : String)
    (ordinal : Nat) (vs : List Value) :
    ofEntries scope transforms place ordinal (renameItems σ vs) =
      ofEntries scope transforms place ordinal vs := by
  induction vs generalizing ordinal with
  | nil => rfl
  | cons v vs ih =>
    have hlast : (renameItems σ vs).isEmpty = vs.isEmpty := by
      cases vs <;> rfl
    rw [renameItems, ofEntries, ofEntries, ofEntry_rename, hlast, ih]

end DomainProperty

namespace Heading

def rename (σ : Equiv.Perm Nat) (h : Heading) : Heading :=
  { h with properties := renameItems σ h.properties }

theorem ofEntry_rename {index : Nat} {v : Value} {h : Heading} (hv : ofEntry index v = .ok h) :
    ofEntry index (v.rename σ) = .ok (h.rename σ) := by
  obtain ⟨entries, he, hv⟩ := bind_eq_ok.mp hv
  obtain ⟨name, hn, hv⟩ := bind_eq_ok.mp hv
  obtain ⟨mapGroup, hm, hv⟩ := bind_eq_ok.mp hv
  obtain ⟨isRoot, hr, hv⟩ := bind_eq_ok.mp hv
  obtain ⟨listGroup, hl, hv⟩ := bind_eq_ok.mp hv
  obtain ⟨properties, hp, hv⟩ := bind_eq_ok.mp hv
  cases hv
  unfold mapGroupOf at hm
  unfold ofEntry mapGroupOf
  dsimp only
  rw [entryOf_rename, he, Except.map, ok_bind, requiredText_renameEntries, hn, ok_bind,
    fieldOrNull_renameEntries, MapGroup.ofValue_rename, hm, ok_bind, flagField_renameEntries, hr,
    ok_bind, flagField_renameEntries, hl, ok_bind, fieldOrNull_renameEntries, itemsOf_rename, hp]
  rfl

theorem complete_rename (registry : Registry) (transforms : Transforms) (h : Heading) :
    (h.rename σ).complete registry transforms = h.complete registry transforms := by
  unfold complete scope rename
  dsimp only
  rw [DomainProperty.ofEntries_renameItems]

end Heading

theorem TransformHint.ofEntry_rename (registry : Registry) (key : Scalar) (v : Value) :
    ofEntry registry key (v.rename σ) = ofEntry registry key v := by
  unfold ofEntry
  cases shown (.scalar key) with
  | error e => rfl
  | ok place =>
    rw [ok_bind, ok_bind, mappingOf_rename]
    cases mappingOf ("transforms." ++ place) v with
    | error e => rfl
    | ok entries => simp only [Except.map, ok_bind, textField_renameEntries]

theorem Transforms.ofEntries_renameEntries (registry : Registry) (ts : Transforms)
    (entries : Entries) :
    ofEntries registry ts (renameEntries σ entries) = ofEntries registry ts entries := by
  induction entries generalizing ts with
  | nil => rfl
  | cons entry entries ih =>
    obtain ⟨key, v⟩ := entry
    rw [renameEntries, ofEntries, ofEntries, TransformHint.ofEntry_rename]
    simp only [ih]

end FluentKotlin
