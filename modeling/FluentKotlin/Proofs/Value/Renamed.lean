import FluentKotlin.Value.Written
import Mathlib.Algebra.Group.End

/-! # Names inside of values

A collection that contains itself has a name, which stands for it inside. Which names they are does
not show: a value with other names is opened, written and looked up in the same way.
-/

namespace FluentKotlin

namespace Value

section Renaming

variable (σ : Equiv.Perm Nat)

mutual

def rename : Value → Value
  | .scalar s => .scalar s
  | .list items => .list (renameItems items)
  | .mapping entries => .mapping (renameEntries entries)
  | .pair a b => .pair (rename a) (rename b)
  | .set members => .set members
  | .named n v => .named (σ n) (rename v)
  | .again n => .again (σ n)

def renameItems : List Value → List Value
  | [] => []
  | v :: vs => rename v :: renameItems vs

def renameEntries : List (Scalar × Value) → List (Scalar × Value)
  | [] => []
  | (k, v) :: es => (k, rename v) :: renameEntries es

end

end Renaming

theorem renameItems_eq_map (σ : Equiv.Perm Nat) (vs : List Value) :
    renameItems σ vs = vs.map (rename σ) := by
  induction vs with
  | nil => rfl
  | cons v vs ih => rw [renameItems, ih, List.map_cons]

mutual

theorem rename_rename (σ τ : Equiv.Perm Nat) : ∀ v : Value,
    (v.rename σ).rename τ = v.rename (τ * σ)
  | .scalar _ | .set _ | .again _ => rfl
  | .list items => by
    rw [rename, rename, rename, renameItems_renameItems]
  | .mapping entries => by
    rw [rename, rename, rename, renameEntries_renameEntries]
  | .pair a b => by
    rw [rename, rename, rename, rename_rename σ τ a, rename_rename σ τ b]
  | .named n v => by
    rw [rename, rename, rename, rename_rename σ τ v, Equiv.Perm.mul_apply]

theorem renameItems_renameItems (σ τ : Equiv.Perm Nat) : ∀ vs : List Value,
    renameItems τ (renameItems σ vs) = renameItems (τ * σ) vs
  | [] => rfl
  | v :: vs => by
    rw [renameItems, renameItems, renameItems, rename_rename, renameItems_renameItems]

theorem renameEntries_renameEntries (σ τ : Equiv.Perm Nat) : ∀ es : List (Scalar × Value),
    renameEntries τ (renameEntries σ es) = renameEntries (τ * σ) es
  | [] => rfl
  | (k, v) :: es => by
    rw [renameEntries, renameEntries, renameEntries, rename_rename, renameEntries_renameEntries]

end

mutual

theorem rename_one : ∀ v : Value, v.rename 1 = v
  | .scalar _ | .set _ | .again _ => rfl
  | .list items => by rw [rename, renameItems_one]
  | .mapping entries => by rw [rename, renameEntries_one]
  | .pair a b => by rw [rename, rename_one a, rename_one b]
  | .named n v => by rw [rename, rename_one v, Equiv.Perm.one_apply]

theorem renameItems_one : ∀ vs : List Value, renameItems 1 vs = vs
  | [] => rfl
  | v :: vs => by rw [renameItems, rename_one, renameItems_one]

theorem renameEntries_one : ∀ es : List (Scalar × Value), renameEntries 1 es = es
  | [] => rfl
  | (k, v) :: es => by rw [renameEntries, rename_one, renameEntries_one]

end

variable {σ : Equiv.Perm Nat}

mutual

theorem rename_fillIn (name : Nat) (whole : Value) : ∀ v : Value,
    (fillIn name whole v).rename σ = fillIn (σ name) (whole.rename σ) (v.rename σ)
  | .scalar _ | .set _ => rfl
  | .list items => by rw [fillIn, rename, rename, fillIn, renameItems_fillInItems]
  | .mapping entries => by rw [fillIn, rename, rename, fillIn, renameEntries_fillInEntries]
  | .pair a b => by
    rw [fillIn, rename, rename, fillIn, rename_fillIn name whole a, rename_fillIn name whole b]
  | .named n v => by rw [fillIn, rename, rename, fillIn, rename_fillIn name whole v]
  | .again n => by
    rw [fillIn, rename, fillIn, apply_ite (rename σ), rename]
    simp only [σ.injective.eq_iff]

theorem renameItems_fillInItems (name : Nat) (whole : Value) : ∀ vs : List Value,
    renameItems σ (fillInItems name whole vs) =
      fillInItems (σ name) (whole.rename σ) (renameItems σ vs)
  | [] => rfl
  | v :: vs => by
    rw [fillInItems, renameItems, renameItems, fillInItems, rename_fillIn,
      renameItems_fillInItems name whole vs]

theorem renameEntries_fillInEntries (name : Nat) (whole : Value) :
    ∀ es : List (Scalar × Value),
      renameEntries σ (fillInEntries name whole es) =
        fillInEntries (σ name) (whole.rename σ) (renameEntries σ es)
  | [] => rfl
  | (k, v) :: es => by
    rw [fillInEntries, renameEntries, renameEntries, fillInEntries, rename_fillIn,
      renameEntries_fillInEntries name whole es]

end

theorem opened_rename (v : Value) : (v.rename σ).opened = v.opened.rename σ := by
  cases v with
  | named n v => exact (rename_fillIn n (.named n v) v).symm
  | _ => rfl

theorem field?_renameEntries (key : String) (es : List (Scalar × Value)) :
    field? key (renameEntries σ es) = (field? key es).map (rename σ) := by
  induction es with
  | nil => rfl
  | cons e es ih =>
    obtain ⟨k, v⟩ := e
    cases k with
    | text s =>
      rw [renameEntries, field?, field?, ih]
      split <;> rfl
    | _ => exact ih

theorem fieldOrNull_renameEntries (key : String) (es : List (Scalar × Value)) :
    fieldOrNull key (renameEntries σ es) = (fieldOrNull key es).rename σ := by
  unfold fieldOrNull
  rw [field?_renameEntries]
  cases field? key es <;> rfl

theorem isVoid_rename (v : Value) : (v.rename σ).isVoid = v.isVoid := by
  cases v with
  | list items => cases items <;> rfl
  | mapping entries => cases entries <;> rfl
  | _ => rfl

theorem brackets_rename (v : Value) : (v.rename σ).brackets = v.brackets := by
  cases v <;> rfl

def Around.rename (σ : Equiv.Perm Nat) (around : Around) : Around :=
  around.map fun (n, brackets) => (σ n, brackets)

theorem Around.lookup_rename (around : Around) (n : Nat) :
    List.lookup (σ n) (around.rename σ) = around.lookup n := by
  induction around with
  | nil => rfl
  | cons a around ih =>
    obtain ⟨m, brackets⟩ := a
    change List.lookup (σ n) ((σ m, brackets) :: Around.rename σ around) = _
    rw [List.lookup_cons, List.lookup_cons, ih]
    simp only [beq_eq_decide, σ.injective.eq_iff]

mutual

theorem quotedIn_rename : ∀ (v : Value) (around : Around),
    (v.rename σ).quotedIn (around.rename σ) = v.quotedIn around
  | .scalar _, _ | .set _, _ => rfl
  | .list items, around => by rw [rename, quotedIn, quotedIn, quotedItems_rename]
  | .mapping entries, around => by rw [rename, quotedIn, quotedIn, quotedEntries_rename]
  | .pair a b, around => by
    rw [rename, quotedIn, quotedIn, quotedIn_rename a, quotedIn_rename b]
  | .named n v, around => by
    have hv := quotedIn_rename v ((n, v.brackets) :: around)
    rw [rename, quotedIn, quotedIn, Around.lookup_rename, brackets_rename]
    split
    · rfl
    · exact hv
  | .again n, around => by rw [rename, quotedIn, quotedIn, Around.lookup_rename]

theorem quotedItems_rename : ∀ (vs : List Value) (around : Around),
    quotedItems (around.rename σ) (renameItems σ vs) = quotedItems around vs
  | [], _ => rfl
  | v :: vs, around => by
    rw [renameItems, quotedItems, quotedItems, quotedIn_rename v, quotedItems_rename vs]

theorem quotedEntries_rename : ∀ (es : List (Scalar × Value)) (around : Around),
    quotedEntries (around.rename σ) (renameEntries σ es) = quotedEntries around es
  | [], _ => rfl
  | (k, v) :: es, around => by
    rw [renameEntries, quotedEntries, quotedEntries, quotedIn_rename v, quotedEntries_rename es]

end

theorem quoted_rename (v : Value) : (v.rename σ).quoted = v.quoted := quotedIn_rename v []

theorem written_rename (v : Value) : (v.rename σ).written = v.written := by
  cases v with
  | scalar s => rfl
  | _ => exact quoted_rename _

mutual

theorem hasLong_rename : ∀ v : Value, (v.rename σ).hasLong = v.hasLong
  | .scalar _ | .set _ | .again _ => rfl
  | .list items => by rw [rename, hasLong, hasLong, anyLong_rename]
  | .mapping entries => by rw [rename, hasLong, hasLong, anyLongEntry_rename]
  | .pair a b => by rw [rename, hasLong, hasLong, hasLong_rename a, hasLong_rename b]
  | .named n v => by rw [rename, hasLong, hasLong, hasLong_rename v]

theorem anyLong_rename : ∀ vs : List Value, anyLong (renameItems σ vs) = anyLong vs
  | [] => rfl
  | v :: vs => by rw [renameItems, anyLong, anyLong, hasLong_rename v, anyLong_rename vs]

theorem anyLongEntry_rename : ∀ es : List (Scalar × Value),
    anyLongEntry (renameEntries σ es) = anyLongEntry es
  | [] => rfl
  | (k, v) :: es => by
    rw [renameEntries, anyLongEntry, anyLongEntry, hasLong_rename v, anyLongEntry_rename es]

end

theorem shown_rename (v : Value) : (v.rename σ).shown = v.shown := by
  unfold shown
  rw [hasLong_rename, written_rename]

end Value

end FluentKotlin
