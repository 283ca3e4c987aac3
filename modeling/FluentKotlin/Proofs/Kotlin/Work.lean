import FluentKotlin.Kotlin.Bench
import FluentKotlin.Proofs.Kotlin.Drafts
import FluentKotlin.Proofs.Pointwise

/-! # Work that keeps drafts sound

Whatever commands are run on a bench, and whether or not they fail, every draft on it has at most
one access modifier, and every declaration that was built is sound in all its parts. The type of a
draft stays what it was first given, and a declaration that is built from the draft has that type.
-/

namespace FluentKotlin

/-- There is at most one access modifier. -/
def AccessOnce (ms : List Modifier) : Prop := (ms.filter (·.isAccess)).length ≤ 1

namespace Declaration

def modifiers : Declaration → List Modifier
  | property d => d.modifiers
  | parameter d => d.modifiers
  | function d => d.modifiers
  | type d => d.modifiers
  | typeAlias _ | file _ => []

def overridden : Declaration → Bool
  | function d => d.overridden
  | property _ | parameter _ | type _ | typeAlias _ | file _ => false

def isTyped : Declaration → Bool
  | property _ | parameter _ | typeAlias _ => true
  | function _ | type _ | file _ => false

def type? : Declaration → Option TypeName
  | property d => some d.type
  | parameter d => some d.type
  | typeAlias d => some d.target
  | function _ | type _ | file _ => none

def parts : Declaration → List Declaration
  | function d => d.parameters.map .parameter
  | type d => d.properties.map .property ++ d.functions.map .function ++ d.nested.map .type
  | file d => d.aliases.map .typeAlias ++ d.types.map .type ++ d.functions.map .function
  | property _ | parameter _ | typeAlias _ => []

/-- What every declaration has, a file apart: it has its class name instead of a name. -/
structure Proper (d : Declaration) : Prop where
  name : ∀ name ∈ d.name?, name ≠ ""
  type : d.isTyped = true → d.type?.isSome = true
  access : AccessOnce d.modifiers
  override : d.overridden = true → .override ∈ d.modifiers

/-- The declaration is proper, and so is everything inside it. -/
inductive Sound : Declaration → Prop where
  | intro {d : Declaration} : d.Proper → (∀ c ∈ d.parts, c.Sound) → d.Sound

end Declaration

namespace DraftHead

variable {h h' : DraftHead} {kind : DraftKind} {m : Modifier}

theorem access?_eq_none_iff : h.access? = none ↔ h.modifiers.filter (·.isAccess) = [] := by
  simp [access?, List.filter_eq_nil_iff]

theorem accessOnce_addModifier (ha : AccessOnce h.modifiers)
    (hm : h.addModifier kind m = .ok h') : AccessOnce h'.modifiers := by
  unfold addModifier at hm
  cases hnone : (if m.isAccess then h.access? else none) with
  | some first =>
    rw [hnone] at hm
    cases hm
  | none =>
    rw [hnone] at hm
    cases hm
    unfold AccessOnce
    rw [List.filter_append, List.length_append]
    cases hacc : m.isAccess with
    | true =>
      rw [hacc, if_pos rfl, access?_eq_none_iff] at hnone
      simp [hnone, hacc]
    | false => simpa [AccessOnce, hacc] using ha

end DraftHead

theorem override_mem_overrideModifiers {overridden : Bool} (h : overridden = true)
    (ms : List Modifier) : .override ∈ overrideModifiers overridden ms := by
  unfold overrideModifiers
  cases hc : overridden && !ms.contains .override with
  | true => simp
  | false => simpa [h] using hc

theorem accessOnce_overrideModifiers {ms : List Modifier} (h : AccessOnce ms)
    (overridden : Bool) : AccessOnce (overrideModifiers overridden ms) := by
  unfold overrideModifiers
  split
  · simpa [AccessOnce, Modifier.isAccess] using h
  · exact h

namespace Draft

variable {d d' : Draft} {c : Declaration}

def parts : Draft → List Declaration
  | function d => d.parameters.map .parameter
  | type d => d.properties.map .property ++ d.functions.map .function ++ d.nested.map .type
  | file d => d.aliases.map .typeAlias ++ d.types.map .type ++ d.functions.map .function
  | property _ | parameter _ | typeAlias _ => []

/-- The draft has at most one access modifier, and its parts are sound. -/
structure Sound (d : Draft) : Prop where
  access : ∀ h ∈ d.head?, AccessOnce h.modifiers
  parts : ∀ c ∈ d.parts, c.Sound

/-- What a step keeps of a draft. -/
structure Kept (d d' : Draft) : Prop where
  kind : d'.kind = d.kind
  type : ∀ t, d.type? = some t → d'.type? = some t
  access : (∀ h ∈ d.head?, AccessOnce h.modifiers) → ∀ h ∈ d'.head?, AccessOnce h.modifiers

theorem sound_empty (kind : DraftKind) : (empty kind).Sound := by
  cases kind <;>
    exact ⟨by simp [empty, head?, AccessOnce], by simp [empty, parts]⟩

theorem kept_withHead {h h' : DraftHead} (hd : d.head? = some h)
    (ha : AccessOnce h.modifiers → AccessOnce h'.modifiers) : d.Kept (d.withHead h') := by
  cases d with
  | file d => cases hd
  | property | parameter | function | type | typeAlias =>
    cases hd
    refine ⟨rfl, fun t ht => ht, fun hall => ?_⟩
    rintro _ ⟨rfl⟩
    exact ha (hall _ rfl)

theorem parts_withHead (h : DraftHead) (d : Draft) : (d.withHead h).parts = d.parts := by
  cases d <;> rfl

theorem parts_withType (t : Option TypeName) (d : Draft) : (d.withType t).parts = d.parts := by
  cases d <;> rfl

theorem kept_withType (h : d.type? = none) (t : Option TypeName) : d.Kept (d.withType t) := by
  refine ⟨?_, ?_, ?_⟩
  · cases d <;> rfl
  · intro u hu
    rw [h] at hu
    cases hu
  · intro ha
    cases d <;> exact ha

theorem Kept.trans {d'' : Draft} (h : d.Kept d') (h' : d'.Kept d'') : d.Kept d'' :=
  ⟨h'.kind.trans h.kind, fun t ht => h'.type t (h.type t ht), fun ha => h'.access (h.access ha)⟩

theorem editHead_kept {f : DraftHead → Except DeclError DraftHead} (he : d.editHead f = .ok d')
    (hf : ∀ h h', f h = .ok h' → AccessOnce h.modifiers → AccessOnce h'.modifiers) :
    d.Kept d' ∧ d'.parts = d.parts := by
  unfold editHead at he
  cases hd : d.head? with
  | none =>
    rw [hd] at he
    cases he
  | some h =>
    cases hh : f h with
    | error e =>
      simp only [hd, hh] at he
      cases he
    | ok h' =>
      simp only [hd, hh] at he
      cases he
      exact ⟨kept_withHead hd (hf h h' hh), parts_withHead h' d⟩

theorem type_eq_none_of_giveType {kind : DraftKind} {h : DraftHead} {type t u : Option TypeName}
    (hu : FluentKotlin.giveType kind h type t = .ok u) : type = none := by
  cases type with
  | none => rfl
  | some _ => cases hu

theorem giveType_kept {t : Option TypeName} {name : Option String}
    (he : d.giveType t name = .ok d') : d.Kept d' ∧ d'.parts = d.parts := by
  unfold giveType at he
  cases hd : d.head? with
  | none =>
    rw [hd] at he
    cases he
  | some h =>
    simp only [hd] at he
    cases ht : d.isTyped with
    | false =>
      rw [ht, if_neg Bool.false_ne_true] at he
      cases he
    | true =>
      rw [ht, if_pos rfl] at he
      cases hu : FluentKotlin.giveType d.kind h d.type? t with
      | error e =>
        rw [hu] at he
        cases he
      | ok u =>
        have hnone : d.type? = none := type_eq_none_of_giveType hu
        rw [hu] at he
        cases he
        cases name with
        | none => exact ⟨kept_withType hnone u, parts_withType u d⟩
        | some name =>
          have htype : (d.withHead (h.withDefaultName name)).type? = none := by
            cases d <;> exact hnone
          have hnamed : d.Kept (d.withHead (h.withDefaultName name)) :=
            kept_withHead hd fun ha => ha
          exact ⟨hnamed.trans (kept_withType htype u),
            (parts_withType u _).trans (parts_withHead _ d)⟩

/-- A step takes no type and no access modifier away, and leaves the parts as they are. -/
theorem edit_kept {e : Edit} (he : d.edit e = .ok d') : d.Kept d' ∧ d'.parts = d.parts := by
  cases e with
  | name s =>
    rw [edit] at he
    refine editHead_kept he ?_
    rintro h _ ⟨rfl⟩ ha
    exact ha
  | modifier m =>
    rw [edit] at he
    exact editHead_kept he fun h h' hm ha => h.accessOnce_addModifier ha hm
  | type | lambda | boolean =>
    rw [edit] at he
    exact giveType_kept he
  | className c =>
    cases d with
    | file d =>
      unfold edit at he
      dsimp only at he
      split at he
      · cases he
      · cases he
        exact ⟨⟨rfl, fun _ h => h, fun h => h⟩, rfl⟩
    | property | parameter | function | type | typeAlias => cases he
  | importing condition i =>
    cases d with
    | file d =>
      cases he
      cases condition <;> exact ⟨⟨rfl, fun _ h => h, fun h => h⟩, rfl⟩
    | property | parameter | function | type | typeAlias => cases he
  | mutability | initializer | default | returns | overriding | doc | annotated | statement
  | superType | typeVariables =>
    cases d <;> cases he <;> exact ⟨⟨rfl, fun _ h => h, fun h => h⟩, rfl⟩

theorem add_kept (h : d.add c = .ok d') :
    d.Kept d' ∧ ∀ e ∈ d'.parts, e ∈ d.parts ∨ e = c := by
  unfold add at h
  split at h
  case h_8 => cases h
  all_goals
    cases h
    refine ⟨⟨rfl, fun _ h => h, fun h => h⟩, ?_⟩
    intro e he
    simp only [parts, List.map_append, List.map_cons, List.map_nil, List.mem_append,
      List.mem_singleton] at he ⊢
    grind

theorem addEach_type (d : TypeDraft) (fs : List FunctionDecl) :
    (type d).addEach fs = .ok (type { d with functions := d.functions ++ fs }) := by
  induction fs generalizing d with
  | nil => rw [addEach, List.append_nil]
  | cons f fs ih =>
    rw [addEach, add, ok_bind, ih, List.append_assoc]
    rfl

theorem addEach_kept {d : TypeDraft} {fs : List FunctionDecl} (h : (type d).addEach fs = .ok d') :
    (type d).Kept d' ∧ ∀ e ∈ d'.parts, e ∈ (type d).parts ∨ ∃ f ∈ fs, e = .function f := by
  rw [addEach_type] at h
  cases h
  refine ⟨⟨rfl, fun _ h => h, fun h => h⟩, ?_⟩
  intro e he
  simp only [parts, List.map_append, List.mem_append, List.mem_map] at he ⊢
  grind

theorem proper_of_build (hd : ∀ h ∈ d.head?, AccessOnce h.modifiers) (h : d.build = .ok c) :
    c.Proper := by
  cases d with
  | property d =>
    obtain ⟨p, hp, rfl⟩ := map_eq_ok.mp h
    obtain ⟨name, type, _, hne, _, rfl⟩ := PropertyDraft.build_eq_ok hp
    exact ⟨by simpa [Declaration.name?] using hne, fun _ => rfl, hd _ rfl, nofun⟩
  | parameter d =>
    obtain ⟨p, hp, rfl⟩ := map_eq_ok.mp h
    obtain ⟨name, type, _, hne, _, rfl⟩ := ParameterDraft.build_eq_ok hp
    exact ⟨by simpa [Declaration.name?] using hne, fun _ => rfl, hd _ rfl, nofun⟩
  | function d =>
    obtain ⟨f, hf, rfl⟩ := map_eq_ok.mp h
    obtain ⟨name, _, hne, rfl⟩ := FunctionDraft.build_eq_ok hf
    exact ⟨by simpa [Declaration.name?] using hne, nofun,
      accessOnce_overrideModifiers (hd _ rfl) _, fun ho => override_mem_overrideModifiers ho _⟩
  | type d =>
    obtain ⟨t, ht, rfl⟩ := map_eq_ok.mp h
    obtain ⟨name, _, hne, rfl⟩ := TypeDraft.build_eq_ok ht
    exact ⟨by simpa [Declaration.name?] using hne, nofun, hd _ rfl, nofun⟩
  | typeAlias d =>
    obtain ⟨a, ha, rfl⟩ := map_eq_ok.mp h
    obtain ⟨name, target, _, hne, _, rfl⟩ := AliasDraft.build_eq_ok ha
    exact ⟨by simpa [Declaration.name?] using hne, fun _ => rfl, Nat.zero_le 1, nofun⟩
  | file d =>
    obtain ⟨f, _, rfl⟩ := map_eq_ok.mp h
    exact ⟨nofun, nofun, Nat.zero_le 1, nofun⟩

theorem parts_of_build (h : d.build = .ok c) : c.parts = d.parts ∧ c.type? = d.type? := by
  cases d with
  | property d =>
    obtain ⟨p, hp, rfl⟩ := map_eq_ok.mp h
    obtain ⟨_, _, _, _, ht, rfl⟩ := PropertyDraft.build_eq_ok hp
    exact ⟨rfl, ht.symm⟩
  | parameter d =>
    obtain ⟨p, hp, rfl⟩ := map_eq_ok.mp h
    obtain ⟨_, _, _, _, ht, rfl⟩ := ParameterDraft.build_eq_ok hp
    exact ⟨rfl, ht.symm⟩
  | function d =>
    obtain ⟨f, hf, rfl⟩ := map_eq_ok.mp h
    obtain ⟨_, _, _, rfl⟩ := FunctionDraft.build_eq_ok hf
    exact ⟨rfl, rfl⟩
  | type d =>
    obtain ⟨t, ht, rfl⟩ := map_eq_ok.mp h
    obtain ⟨_, _, _, rfl⟩ := TypeDraft.build_eq_ok ht
    exact ⟨rfl, rfl⟩
  | typeAlias d =>
    obtain ⟨a, ha, rfl⟩ := map_eq_ok.mp h
    obtain ⟨_, _, _, _, ht, rfl⟩ := AliasDraft.build_eq_ok ha
    exact ⟨rfl, ht.symm⟩
  | file d =>
    obtain ⟨f, hf, rfl⟩ := map_eq_ok.mp h
    obtain ⟨_, ha, ht, hfs⟩ := FileDraft.build_eq_ok hf
    refine ⟨?_, rfl⟩
    simp only [Declaration.parts, parts, ha, ht, hfs]

theorem Sound.build (hd : d.Sound) (h : d.build = .ok c) : c.Sound := by
  obtain ⟨hparts, _⟩ := parts_of_build h
  refine .intro (proper_of_build hd.access h) ?_
  rw [hparts]
  exact hd.parts

theorem Sound.edit {e : Edit} (hd : d.Sound) (h : d.edit e = .ok d') : d'.Sound := by
  obtain ⟨hkept, hparts⟩ := edit_kept h
  refine ⟨hkept.access hd.access, ?_⟩
  rw [hparts]
  exact hd.parts

theorem Sound.add (hd : d.Sound) (hc : c.Sound) (h : d.add c = .ok d') : d'.Sound := by
  obtain ⟨hkept, hparts⟩ := add_kept h
  refine ⟨hkept.access hd.access, ?_⟩
  intro e he
  rcases hparts e he with he | rfl
  · exact hd.parts e he
  · exact hc

theorem Sound.addEach {d : TypeDraft} {fs : List FunctionDecl} (hd : (type d).Sound)
    (hf : ∀ f ∈ fs, (Declaration.function f).Sound) (h : (type d).addEach fs = .ok d') :
    d'.Sound := by
  obtain ⟨hkept, hparts⟩ := addEach_kept h
  refine ⟨hkept.access hd.access, ?_⟩
  intro e he
  rcases hparts e he with he | ⟨f, hmem, rfl⟩
  · exact hd.parts e he
  · exact hf f hmem

end Draft

def Item.Sound : Item → Prop
  | draft d => d.Sound
  | built c => c.Sound

theorem Item.Sound.declaration {i : Item} {c : Declaration} (hi : i.Sound)
    (h : i.declaration = .ok c) : c.Sound := by
  cases i with
  | draft d => exact Draft.Sound.build hi h
  | built e =>
    cases h
    exact hi

namespace Bench

variable {b : Bench} {id target : String} {i : Item} {k : Command}

/-- The bench after a list of commands, each on the item that it names. -/
def work (b : Bench) : List (String × Command) → Bench
  | [] => b
  | (id, k) :: steps => work (b.run id k).1 steps

/-- Everything that was ever put on the bench is sound. -/
def Sound (b : Bench) : Prop := ∀ p ∈ b, p.2.Sound

theorem Sound.item (hb : b.Sound) (h : b.item? id = some i) : i.Sound := by
  obtain ⟨before, after, rfl, _⟩ := List.lookup_eq_some_iff.mp h
  exact hb _ (List.mem_append_right _ List.mem_cons_self)

theorem find_eq_ok : b.find id = .ok i ↔ b.item? id = some i := by
  unfold find
  cases b.item? id <;> simp

theorem findDraft_eq_ok {d : Draft} : b.findDraft id = .ok d ↔ b.item? id = some (.draft d) := by
  unfold findDraft
  cases b.item? id with
  | none => simp
  | some i => cases i <;> simp

theorem findType_eq_ok {d : TypeDraft} :
    b.findType id = .ok d ↔ b.item? id = some (.draft (.type d)) := by
  unfold findType
  cases b.item? id with
  | none => simp
  | some i =>
    cases i with
    | draft d => cases d <;> simp
    | built c => simp

theorem findFunction_eq_ok {f : FunctionDecl} :
    b.findFunction id = .ok f ↔ b.item? id = some (.built (.function f)) := by
  unfold findFunction
  cases b.item? id with
  | none => simp
  | some i =>
    cases i with
    | draft d => simp
    | built c => cases c <;> simp

theorem findFunctions_eq_ok {ids : List String} {fs : List FunctionDecl} :
    b.findFunctions ids = .ok fs ↔
      List.Forall₂ (fun id f => b.findFunction id = .ok f) ids fs :=
  eq_ok_iff_forall₂ (by rw [findFunctions]; rfl) fun id ids => by rw [findFunctions]

theorem Sound.functions (hb : b.Sound) {ids : List String} {fs : List FunctionDecl}
    (h : b.findFunctions ids = .ok fs) : ∀ f ∈ fs, (Declaration.function f).Sound := by
  intro f hf
  obtain ⟨id, _, hid⟩ := exists_mem_left (findFunctions_eq_ok.mp h) hf
  exact hb.item (findFunction_eq_ok.mp hid)

/-- What a command makes of sound items is sound. -/
theorem Sound.result (hb : b.Sound) (h : b.result id k = .ok (target, i)) : i.Sound := by
  cases k with
  | new kind =>
    cases h
    exact Draft.sound_empty kind
  | build name =>
    obtain ⟨j, hj, h⟩ := bind_eq_ok.mp h
    obtain ⟨c, hc, h⟩ := bind_eq_ok.mp h
    cases h
    exact (hb.item (find_eq_ok.mp hj)).declaration (mapError_eq_ok.mp hc)
  | edit e =>
    obtain ⟨d, hd, h⟩ := bind_eq_ok.mp h
    obtain ⟨d', he, h⟩ := bind_eq_ok.mp h
    cases h
    exact Draft.Sound.edit (hb.item (findDraft_eq_ok.mp hd)) (mapError_eq_ok.mp he)
  | add child =>
    obtain ⟨d, hd, h⟩ := bind_eq_ok.mp h
    obtain ⟨j, hj, h⟩ := bind_eq_ok.mp h
    obtain ⟨c, hc, h⟩ := bind_eq_ok.mp h
    obtain ⟨d', ha, h⟩ := bind_eq_ok.mp h
    cases h
    have hchild : c.Sound := (hb.item (find_eq_ok.mp hj)).declaration (mapError_eq_ok.mp hc)
    exact Draft.Sound.add (hb.item (findDraft_eq_ok.mp hd)) hchild (mapError_eq_ok.mp ha)
  | addFunctions children =>
    obtain ⟨d, hd, h⟩ := bind_eq_ok.mp h
    obtain ⟨fs, hfs, h⟩ := bind_eq_ok.mp h
    obtain ⟨d', ha, h⟩ := bind_eq_ok.mp h
    cases h
    exact Draft.Sound.addEach (hb.item (findType_eq_ok.mp hd)) (hb.functions hfs)
      (mapError_eq_ok.mp ha)

theorem Sound.run (hb : b.Sound) (id : String) (k : Command) : (b.run id k).1.Sound := by
  unfold Bench.run
  cases h : b.result id k with
  | ok item => exact List.forall_mem_cons.mpr ⟨hb.result h, hb⟩
  | error e => exact hb

theorem Sound.work (hb : b.Sound) (steps : List (String × Command)) : (b.work steps).Sound := by
  induction steps generalizing b with
  | nil => exact hb
  | cons step steps ih => exact ih (hb.run step.1 step.2)

/-- The command puts another item under the name. -/
def Remakes (id : String) : String × Command → Prop
  | (name, .new _) => name = id
  | (_, .build target) => target = id
  | (_, .edit _) | (_, .add _) | (_, .addFunctions _) => False

/-- The name stands for a draft of the kind that has the type. -/
def Holds (b : Bench) (id : String) (kind : DraftKind) (t : TypeName) : Prop :=
  ∃ d, b.item? id = some (.draft d) ∧ d.kind = kind ∧ d.type? = some t

variable {kind : DraftKind} {t : TypeName}

theorem Holds.put_of_ne (h : b.Holds id kind t) (hne : target ≠ id) (i : Item) :
    (b.put target i).Holds id kind t := by
  obtain ⟨d, hd, hkind, ht⟩ := h
  refine ⟨d, ?_, hkind, ht⟩
  rw [← hd]
  simp [item?, put, List.lookup_cons, beq_false_of_ne hne.symm]

theorem Holds.put_of_kept (h : b.Holds id kind t) {d d' : Draft}
    (hd : b.item? target = some (.draft d)) (hkept : d.Kept d') :
    (b.put target (.draft d')).Holds id kind t := by
  by_cases he : target = id
  · obtain ⟨e, hitem, hkind, ht⟩ := h
    obtain rfl : d = e := by
      rw [he, hitem] at hd
      cases hd
      rfl
    refine ⟨d', ?_, hkept.kind.trans hkind, hkept.type t ht⟩
    simp [item?, put, he]
  · exact h.put_of_ne he _

theorem Holds.run (h : b.Holds id kind t) {step : String × Command} (hs : ¬ Remakes id step) :
    (b.run step.1 step.2).1.Holds id kind t := by
  obtain ⟨name, k⟩ := step
  unfold Bench.run
  cases hr : b.result name k with
  | error e => exact h
  | ok item =>
    cases k with
    | new kind' =>
      cases hr
      exact h.put_of_ne hs _
    | build _ =>
      obtain ⟨j, _, hr⟩ := bind_eq_ok.mp hr
      obtain ⟨c, _, hr⟩ := bind_eq_ok.mp hr
      cases hr
      exact h.put_of_ne hs _
    | edit e =>
      obtain ⟨d, hd, hr⟩ := bind_eq_ok.mp hr
      obtain ⟨d', he, hr⟩ := bind_eq_ok.mp hr
      cases hr
      exact h.put_of_kept (findDraft_eq_ok.mp hd) (Draft.edit_kept (mapError_eq_ok.mp he)).1
    | add child =>
      obtain ⟨d, hd, hr⟩ := bind_eq_ok.mp hr
      obtain ⟨j, _, hr⟩ := bind_eq_ok.mp hr
      obtain ⟨c, _, hr⟩ := bind_eq_ok.mp hr
      obtain ⟨d', ha, hr⟩ := bind_eq_ok.mp hr
      cases hr
      exact h.put_of_kept (findDraft_eq_ok.mp hd) (Draft.add_kept (mapError_eq_ok.mp ha)).1
    | addFunctions children =>
      obtain ⟨d, hd, hr⟩ := bind_eq_ok.mp hr
      obtain ⟨fs, _, hr⟩ := bind_eq_ok.mp hr
      obtain ⟨d', ha, hr⟩ := bind_eq_ok.mp hr
      cases hr
      exact h.put_of_kept (findType_eq_ok.mp hd) (Draft.addEach_kept (mapError_eq_ok.mp ha)).1

theorem Holds.work (h : b.Holds id kind t) {steps : List (String × Command)}
    (hs : ∀ step ∈ steps, ¬ Remakes id step) : (b.work steps).Holds id kind t := by
  induction steps generalizing b with
  | nil => exact h
  | cons step steps ih =>
    rw [List.forall_mem_cons] at hs
    exact ih (h.run hs.1) hs.2

/-- At every moment of every work that starts with nothing, the drafts have at most one access
modifier, all that was built is sound in all its parts, and what a draft is built to has its type.
From then on a draft that has a type keeps it. -/
theorem work_keeps_sound (steps : List (String × Command)) :
    ((work [] steps).Sound ∧
      ∀ p ∈ work [] steps, ∀ d c, p.2 = .draft d → d.build = .ok c →
        c.Sound ∧ c.type? = d.type?) ∧
      ∀ id kind t, (work [] steps).Holds id kind t →
        ∀ more : List (String × Command), (∀ step ∈ more, ¬ Remakes id step) →
          ((work [] steps).work more).Holds id kind t := by
  have hb : (work [] steps).Sound := Sound.work (List.forall_mem_nil _) steps
  refine ⟨⟨hb, ?_⟩, fun _ _ _ h _ hs => h.work hs⟩
  rintro ⟨_, _⟩ hp d c rfl h
  exact ⟨Draft.Sound.build (hb _ hp) h, (Draft.parts_of_build h).2⟩

def propertySteps : List (String × Command) :=
  [("p", .new .property), ("p", .build "early"), ("p", .edit .boolean),
    ("p", .edit (.modifier .isPublic)), ("p", .edit (.modifier .isPrivate)), ("t", .new .type)]

def laterSteps : List (String × Command) :=
  [("p", .edit (.type (some .string) none)), ("t", .add "p"), ("p", .build "q")]

theorem work_keeps_sound_propertySteps :
    (work [] propertySteps).Holds "p" .property .boolean ∧
      (∀ step ∈ laterSteps, ¬ Remakes "p" step) ∧
      ((work [] propertySteps).work laterSteps).Holds "p" .property .boolean ∧
      ((work [] propertySteps).work laterSteps).length = 6 := by
  have hh : (work [] propertySteps).Holds "p" .property .boolean := ⟨_, rfl, rfl, rfl⟩
  have hs : ∀ step ∈ laterSteps, ¬ Remakes "p" step := by simp [laterSteps, Remakes]
  exact ⟨hh, hs, (work_keeps_sound propertySteps).2 "p" .property .boolean hh laterSteps hs, rfl⟩

end Bench

end FluentKotlin
