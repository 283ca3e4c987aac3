import FluentKotlin.Proofs.Document.Acceptance
import FluentKotlin.Proofs.Document.Escape

/-! # Entries in which a fault slips through

A fault slips through an entry where the first thing that is wrong with it is not explained: an
integer that is needed as a text and too long for one, a domain whose name has nothing but dots, or
a transform with an input below a key that is no text. Reading an entry lets a fault escape exactly
there.
-/

namespace FluentKotlin

/-! ### Headings and their registry -/

namespace Heading

/-- The name or a flag of the entry is an integer that is too long, and nothing before it is at
fault. -/
inductive Slips (v : Value) : Prop where
  | name {entries : Entries} : v.opened = .mapping entries →
      (fieldOrNull "name" entries).hasLong = true → Slips v
  | root {entries : Entries} {name : String} {mode : MapGroup} : v.opened = .mapping entries →
      requiredText "" "name" entries = .ok name →
      mapGroupOf name (fieldOrNull "mapGroup" entries) = .ok mode →
      (fieldOrNull "root" entries).hasLong = true → Slips v
  | listGroup {entries : Entries} {name : String} {mode : MapGroup} {isRoot : Bool} :
      v.opened = .mapping entries → requiredText "" "name" entries = .ok name →
      mapGroupOf name (fieldOrNull "mapGroup" entries) = .ok mode →
      flagField name "root" entries = .ok isRoot →
      (fieldOrNull "listGroup" entries).hasLong = true → Slips v

theorem escapes_ofEntry {index : Nat} {v : Value} : Escapes (ofEntry index v) ↔ Slips v := by
  unfold ofEntry
  simp only [escapes_bind, not_escapes_entryOf, entryOf_eq_ok, escapes_requiredText,
    not_escapes_mapGroupOf, escapes_flagField, not_escapes_itemsOf, not_escapes_pure, false_or,
    and_false, exists_false, or_false]
  constructor
  · rintro ⟨entries, he, h | ⟨name, hn, mode, hm, h | ⟨isRoot, hr, h⟩⟩⟩
    · exact .name he h
    · exact .root he (requiredText_of_requiredText hn _) hm h
    · exact .listGroup he (requiredText_of_requiredText hn _) hm hr h
  · rintro (⟨he, h⟩ | ⟨he, hn, hm, h⟩ | ⟨he, hn, hm, hr, h⟩)
    · exact ⟨_, he, Or.inl h⟩
    · exact ⟨_, he, Or.inr ⟨_, requiredText_of_requiredText hn _, _, hm, Or.inl h⟩⟩
    · exact ⟨_, he, Or.inr ⟨_, requiredText_of_requiredText hn _, _, hm,
        Or.inr ⟨_, hr, h⟩⟩⟩

theorem escapes_ofEntries {index : Nat} {vs : List Value} : Escapes (ofEntries index vs) ↔
    First (fun v => ∃ h, ofEntry 0 v = .ok h) Slips vs := by
  induction vs generalizing index with
  | nil => exact iff_of_false (not_escapes_ok _) not_first_nil
  | cons v vs ih =>
    unfold ofEntries
    simp only [escapes_bind, escapes_ofEntry, not_escapes_pure, and_false, exists_false, or_false,
      ih, first_cons, exists_and_right]
    refine or_congr_right (and_congr_left fun _ => ?_)
    exact exists_congr fun h =>
      ⟨fun hv => ofEntry_of_ofEntry hv 0, fun hv => ofEntry_of_ofEntry hv _⟩

end Heading

namespace Registry

variable {registry : Registry} {ds : List DomainType}

/-- A name without a segment is no name of a class, and nothing but the split says so. -/
theorem escapes_add {d : DomainType} : Escapes (registry.add d) ↔
    registry.lookup d.qualifiedName = none ∧ ¬ ClassName.IsName d.qualifiedName := by
  unfold add
  cases hl : registry.lookup d.qualifiedName with
  | some e => simp [DocumentError.isExplained]
  | none =>
    by_cases hn : ClassName.IsName d.qualifiedName
    · obtain ⟨c, hc⟩ := ClassName.exists_ofQualified hn
      have hs : d.simpleName = .ok c.simpleName := map_eq_ok.mpr ⟨c, hc, rfl⟩
      rw [hs]
      exact iff_of_false (not_escapes_ok _) fun h => h.2 hn
    · have hs : d.simpleName = .error (.invalid d.qualifiedName) := by
        unfold DomainType.simpleName DomainType.className
        rw [ClassName.ofQualified_of_not_isName hn]
        rfl
      rw [hs]
      exact iff_of_true ⟨_, rfl, rfl⟩ ⟨rfl, hn⟩

def Slips : Registry → List DomainType → Prop :=
  FirstAfter addAll fun registry d =>
    registry.lookup d.qualifiedName = none ∧ ¬ ClassName.IsName d.qualifiedName

theorem escapes_addAll : Escapes (registry.addAll ds) ↔ registry.Slips ds :=
  escapes_iff_firstAfter (fun _ => rfl) (fun _ _ _ => rfl) fun _ _ => escapes_add

end Registry

/-! ### Transforms -/

namespace TransformHint

variable {registry : Registry} {key : Scalar} {v : Value}

/-- The key or a text of the entry is an integer that is too long, or an input is given below a key
that is no text, and nothing before it is at fault. -/
inductive Slips (registry : Registry) (key : Scalar) (v : Value) : Prop where
  | longKey : key.isLong = true → Slips registry key v
  | input {entries : Entries} : key.isLong = false → mappingOf "" v = .ok entries →
      (fieldOrNull "inputType" entries).hasLong = true → Slips registry key v
  | untextedKey {entries : Entries} {text : String} : key.isLong = false →
      mappingOf "" v = .ok entries → textField "inputType" entries = .ok text → text ≠ "" →
      (∀ name, key ≠ .text name) → Slips registry key v
  | template {entries : Entries} {text : String} {input : Option TypeRef} : key.isLong = false →
      mappingOf "" v = .ok entries → textField "inputType" entries = .ok text →
      inputOf registry key text = .ok input →
      (fieldOrNull "template" entries).hasLong = true → Slips registry key v

theorem escapes_packageOf : Escapes (packageOf key) ↔ ∀ name, key ≠ .text name := by
  cases key with
  | text name => exact iff_of_false (not_escapes_ok _) fun h => h name rfl
  | _ => exact iff_of_true ⟨_, rfl, rfl⟩ nofun

theorem escapes_inputOf {text : String} : Escapes (inputOf registry key text) ↔
    text ≠ "" ∧ ∀ name, key ≠ .text name := by
  unfold inputOf
  by_cases h : text = ""
  · rw [if_pos h]
    exact iff_of_false (not_escapes_ok _) fun hne => hne.1 h
  · rw [if_neg h]
    simp only [escapes_bind, escapes_packageOf, not_escapes_readTypeText, not_escapes_pure,
      and_false, exists_false, or_false]
    exact (and_iff_right h).symm

theorem shown_scalar_eq_ok {written : String} :
    shown (.scalar key) = .ok written ↔ key.isLong = false ∧ key.written = written := by
  unfold shown Value.shown Value.hasLong Value.written
  cases key.isLong <;> simp [Except.mapError]

theorem escapes_ofEntry : Escapes (ofEntry registry key v) ↔ Slips registry key v := by
  unfold ofEntry
  simp only [escapes_bind, escapes_shown, not_escapes_mappingOf, escapes_textField,
    escapes_inputOf, not_escapes_pure, false_or, and_false, exists_false, or_false, Value.hasLong]
  constructor
  · rintro (h | ⟨written, hw, entries, hm, h | ⟨text, ht, ⟨hne, hkey⟩ | ⟨input, hi, h⟩⟩⟩)
    · exact .longKey h
    · exact .input (shown_scalar_eq_ok.mp hw).1 (mappingOf_of_mappingOf hm _) h
    · exact .untextedKey (shown_scalar_eq_ok.mp hw).1 (mappingOf_of_mappingOf hm _) ht hne hkey
    · exact .template (shown_scalar_eq_ok.mp hw).1 (mappingOf_of_mappingOf hm _) ht hi h
  · rintro (h | ⟨hk, hm, h⟩ | ⟨hk, hm, ht, hne, hkey⟩ | ⟨hk, hm, ht, hi, h⟩)
    · exact Or.inl h
    all_goals
      have hw := shown_scalar_eq_ok.mpr ⟨hk, rfl⟩
      refine Or.inr ⟨_, hw, _, mappingOf_of_mappingOf hm _, ?_⟩
    · exact Or.inl h
    · exact Or.inr ⟨_, ht, Or.inl ⟨hne, hkey⟩⟩
    · exact Or.inr ⟨_, ht, Or.inr ⟨_, hi, h⟩⟩

end TransformHint

namespace Transforms

variable {registry : Registry} {ts : Transforms} {entries : Entries}

def Slips (registry : Registry) : Transforms → Entries → Prop :=
  FirstAfter (ofEntries registry) fun _ entry => TransformHint.Slips registry entry.1 entry.2

def addEntry (registry : Registry) (ts : Transforms) (entry : Scalar × Value) :
    Describing Transforms := do
  return ts.put entry.1.written (← TransformHint.ofEntry registry entry.1 entry.2)

theorem ofEntries_cons (ts : Transforms) (entry : Scalar × Value) (entries : Entries) :
    ofEntries registry ts (entry :: entries) =
      addEntry registry ts entry >>= fun next => ofEntries registry next entries := by
  obtain ⟨key, v⟩ := entry
  rw [ofEntries, addEntry, bind_assoc]
  simp only [pure_bind]

theorem escapes_addEntry {entry : Scalar × Value} :
    Escapes (addEntry registry ts entry) ↔ TransformHint.Slips registry entry.1 entry.2 := by
  unfold addEntry
  simp only [escapes_bind, TransformHint.escapes_ofEntry, not_escapes_pure, and_false,
    exists_false, or_false]

theorem escapes_ofEntries :
    Escapes (ofEntries registry ts entries) ↔ Slips registry ts entries :=
  escapes_iff_firstAfter (fun _ => rfl) ofEntries_cons fun _ _ => escapes_addEntry

end Transforms

/-! ### Properties -/

namespace DefaultHint

variable {scope : TypeScope} {declared : TypeRef} {place : String} {default : Value}

/-- The type or the value of the default has an integer that is too long, and nothing before it is
at fault. -/
inductive Slips (scope : TypeScope) (declared : TypeRef) (default : Value) : Prop where
  | type {entries : Entries} {v : Value} : default.opened = .mapping entries →
      field? "value" entries = some v → (fieldOrNull "type" entries).hasLong = true →
      Slips scope declared default
  | value {entries : Entries} {v : Value} {valueType : TypeRef} :
      default.opened = .mapping entries → field? "value" entries = some v →
      typeOf scope declared (fieldOrNull "type" entries) = .ok valueType → v.hasLong = true →
      Slips scope declared default
  | plain : default.opened ≠ .null → (∀ entries, default.opened ≠ .mapping entries) →
      default.hasLong = true → Slips scope declared default

theorem escapes_typeOf {v : Value} : Escapes (typeOf scope declared v) ↔ v.hasLong = true := by
  unfold typeOf
  cases hv : v.isVoid with
  | true =>
    refine iff_of_false (not_escapes_ok _) fun h => ?_
    rw [Value.isVoid_of_hasLong h] at hv
    cases hv
  | false =>
    unfold TypeScope.read
    rw [if_neg Bool.false_ne_true]
    simp only [escapes_bind, escapes_shown, not_escapes_readTypeText, not_escapes_pure, and_false,
      exists_false, or_false]

theorem escapes_ofValue :
    Escapes (ofValue scope place declared default) ↔ Slips scope declared default := by
  unfold ofValue
  split
  case h_1 hnull =>
    refine iff_of_false (not_escapes_pure _) ?_
    rintro (⟨ho, -⟩ | ⟨ho, -⟩ | ⟨hne, -⟩)
    · cases hnull.symm.trans ho
    · cases hnull.symm.trans ho
    · exact hne hnull
  case h_2 entries ho =>
    cases hv : field? "value" entries with
    | none =>
      refine iff_of_false (fun h => ?_) ?_
      · exact absurd (escapes_error.mp h) (by simp [DocumentError.isExplained])
      · rintro (⟨ho', hv', -⟩ | ⟨ho', hv', -⟩ | ⟨-, hne, -⟩)
        · cases ho.symm.trans ho'
          cases hv.symm.trans hv'
        · cases ho.symm.trans ho'
          cases hv.symm.trans hv'
        · exact hne entries ho
    | some v =>
      simp only [escapes_bind, escapes_typeOf, escapes_literalOf, not_escapes_pure, and_false,
        exists_false, or_false]
      constructor
      · rintro (h | ⟨valueType, ht, h⟩)
        · exact .type ho hv h
        · exact .value ho hv ht h
      · rintro (⟨ho', -, h⟩ | ⟨ho', hv', ht, h⟩ | ⟨-, hne, -⟩)
        · cases ho.symm.trans ho'
          exact Or.inl h
        · cases ho.symm.trans ho'
          cases hv.symm.trans hv'
          exact Or.inr ⟨_, ht, h⟩
        · exact absurd ho (hne entries)
  case h_3 hnull hmapping =>
    simp only [escapes_bind, escapes_literalOf, not_escapes_pure, and_false, exists_false, or_false]
    constructor
    · exact fun h => .plain hnull hmapping h
    · rintro (⟨ho, -⟩ | ⟨ho, -⟩ | ⟨-, -, h⟩)
      · exact absurd ho (hmapping _)
      · exact absurd ho (hmapping _)
      · exact h

end DefaultHint

namespace DomainProperty

variable {scope : TypeScope} {transforms : Transforms} {place : String} {ordinal : Nat}
  {isLast : Bool} {v : Value} {vs : List Value}

/-- The name, the type or the default of the entry has an integer that is too long, and nothing
before it is at fault. -/
inductive Slips (scope : TypeScope) (v : Value) : Prop where
  | name {entries : Entries} : v.opened = .mapping entries →
      (fieldOrNull "name" entries).hasLong = true → Slips scope v
  | type {entries : Entries} {name : String} : v.opened = .mapping entries →
      requiredText "" "name" entries = .ok name →
      (fieldOrNull "type" entries).hasLong = true → Slips scope v
  | default {entries : Entries} {name typeText : String} {declared : TypeRef} {nullable : Bool} :
      v.opened = .mapping entries → requiredText "" "name" entries = .ok name →
      requiredText "" "type" entries = .ok typeText →
      scope.read typeText = .ok (declared, nullable) →
      DefaultHint.Slips scope declared (fieldOrNull "default" entries) → Slips scope v

theorem escapes_ofEntry :
    Escapes (ofEntry scope transforms place ordinal isLast v) ↔ Slips scope v := by
  have hread (text : String) : ¬ Escapes (scope.read text) := not_escapes_readTypeText
  unfold ofEntry
  simp only [escapes_bind, not_escapes_entryOf, entryOf_eq_ok, escapes_requiredText, hread,
    DefaultHint.escapes_ofValue, not_escapes_pure, false_or, and_false, exists_false, or_false,
    Prod.exists]
  constructor
  · rintro ⟨entries, he, h | ⟨name, hn, h | ⟨typeText, ht, declared, nullable, hr, h⟩⟩⟩
    · exact .name he h
    · exact .type he (requiredText_of_requiredText hn _) h
    · exact .default he (requiredText_of_requiredText hn _)
        (requiredText_of_requiredText ht _) hr h
  · rintro (⟨he, h⟩ | ⟨he, hn, h⟩ | ⟨he, hn, ht, hr, h⟩)
    · exact ⟨_, he, Or.inl h⟩
    · exact ⟨_, he, Or.inr ⟨_, requiredText_of_requiredText hn _, Or.inl h⟩⟩
    · exact ⟨_, he, Or.inr ⟨_, requiredText_of_requiredText hn _, Or.inr
        ⟨_, requiredText_of_requiredText ht _, _, _, hr, h⟩⟩⟩

def Describes (scope : TypeScope) (v : Value) : Prop :=
  ∃ entries typeText p, Reads scope v entries typeText p

theorem exists_ofEntry_iff :
    (∃ p, ofEntry scope transforms place ordinal isLast v = .ok p) ↔ Describes scope v := by
  constructor
  · rintro ⟨p, h⟩
    obtain ⟨⟨entries, typeText, hreads⟩, -⟩ := ofEntry_eq_ok.mp h
    exact ⟨entries, typeText, p, hreads⟩
  · rintro ⟨entries, typeText, p, ho, hn, ht, hr, hd⟩
    exact ⟨{ p with ordinal, isLast, transform := transforms.forType p.declared },
      ofEntry_eq_ok.mpr ⟨⟨entries, typeText, ho, hn, ht, hr, hd⟩, rfl, rfl, rfl⟩⟩

theorem escapes_ofEntries : Escapes (ofEntries scope transforms place ordinal vs) ↔
    First (Describes scope) (Slips scope) vs := by
  induction vs generalizing ordinal with
  | nil => exact iff_of_false (not_escapes_ok _) not_first_nil
  | cons v vs ih =>
    unfold ofEntries
    simp only [escapes_bind, escapes_ofEntry, not_escapes_pure, and_false, exists_false, or_false,
      ih, first_cons, exists_and_right, exists_ofEntry_iff]

end DomainProperty

namespace Heading

variable {registry : Registry} {transforms : Transforms} {hs : List Heading}

theorem escapes_completeAll : Escapes (completeAll registry transforms hs) ↔
    First (fun h => ∃ d, h.complete registry transforms = .ok d) (fun h =>
      First (DomainProperty.Describes (h.scope registry))
        (DomainProperty.Slips (h.scope registry)) h.properties) hs := by
  induction hs with
  | nil => exact iff_of_false (not_escapes_ok _) not_first_nil
  | cons h hs ih =>
    unfold completeAll
    have hcomplete : Escapes (h.complete registry transforms) ↔
        First (DomainProperty.Describes (h.scope registry))
          (DomainProperty.Slips (h.scope registry)) h.properties := by
      unfold complete
      simp only [escapes_bind, DomainProperty.escapes_ofEntries, not_escapes_pure, and_false,
        exists_false, or_false]
    simp only [escapes_bind, hcomplete, not_escapes_pure, and_false, exists_false, or_false, ih,
      first_cons, exists_and_right]

end Heading

end FluentKotlin
