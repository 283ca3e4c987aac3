import FluentKotlin.Proofs.Generation.Isolation
import FluentKotlin.Proofs.Schema.Forms
import FluentKotlin.Proofs.Schema.Total

/-! # The order of the rules

The rules by which a property gets its variant stand in one order, and the first that applies
decides. Classification gives the variant of that rule to every property of an accepted document,
whatever was reported before.
-/

namespace FluentKotlin

inductive Variant where
  | boolean
  | plain
  | map
  | collection
  | group
  | mapGroup
  | builder
  | transform
  deriving DecidableEq, Repr, Inhabited

def Form.variant : Form → Variant
  | boolean => .boolean
  | plain _ => .plain
  | map _ _ => .map
  | collection _ => .collection
  | group _ _ _ => .group
  | mapGroup _ _ _ _ => .mapGroup
  | builder _ _ _ => .builder
  | transform _ _ _ => .transform

structure Rule where
  variant : Variant
  applies : DomainProperty → Bool

namespace TypeRef

/-- The kind or the name is that of a container, and so is the number of arguments. -/
def isApplied (kind : TypeKind) (name : String) (arity : Nat) (r : TypeRef) : Bool :=
  (r.kind == kind || r.qualifiedName == some name) && r.arguments.length == arity

def isMapOfTwo : TypeRef → Bool := isApplied .map mapName 2

def isListOfOne : TypeRef → Bool := isApplied .collection listName 1

def isScalar (r : TypeRef) : Bool := [.char, .string, .numeric].contains r.kind

variable {ds : List DomainType} {r : TypeRef}

theorem isApplied_iff {kind : TypeKind} {name : String} {arity : Nat} :
    r.isApplied kind name arity = true ↔
      (r.kind = kind ∨ r.qualifiedName = some name) ∧ r.arguments.length = arity := by
  simp [isApplied]

theorem isMapOfTwo_iff : r.isMapOfTwo = true ↔ r.IsMap ∧ r.arguments.length = 2 := isApplied_iff

theorem isListOfOne_iff : r.isListOfOne = true ↔ r.IsList ∧ r.arguments.length = 1 :=
  isApplied_iff

theorem isMapOfTwo_eq_false (h : r.IsMap → r.arguments.length ≠ 2) : r.isMapOfTwo = false := by
  rw [Bool.eq_false_iff, Ne, isMapOfTwo_iff]
  exact fun hm => h hm.1 hm.2

theorem isListOfOne_eq_false (h : r.IsList → r.arguments.length ≠ 1) : r.isListOfOne = false := by
  rw [Bool.eq_false_iff, Ne, isListOfOne_iff]
  exact fun hl => h hl.1 hl.2

theorem listName_ne_mapName : listName ≠ mapName := by decide

/-- No reference of a document is a map by one sign and a list by the other. -/
theorem Denoted.not_isList (h : r.Denoted ds) (hm : r.IsMap) : ¬ r.IsList := by
  have named : ∀ {name : String} {s : TypeRef}, s.kind = .nominal → s.qualifiedName = some name →
      s.IsMap → ¬ s.IsList := by
    rintro name s hk hq hm hl
    have hmap := Option.some.inj (hq.symm.trans (hm.resolve_left (by simp [hk])))
    have hlist := Option.some.inj (hq.symm.trans (hl.resolve_left (by simp [hk])))
    exact listName_ne_mapName (hlist.symm.trans hmap)
  induction h with
  | scalar hs =>
    obtain ⟨kind, _, hcollection, _, rfl⟩ := scalarRef?_eq_some hs
    rcases hm with hm | hm
    · exact absurd hm ‹kind ≠ .map›
    · rintro (hl | hl)
      · exact hcollection hl
      · exact listName_ne_mapName (Option.some.inj (hl.symm.trans hm))
  | collection =>
    rcases hm with hm | hm
    · cases hm
    · exact absurd (Option.some.inj hm) listName_ne_mapName
  | map =>
    rintro (hl | hl)
    · cases hl
    · exact listName_ne_mapName (Option.some.inj hl).symm
  | nominal => exact named rfl rfl hm
  | generated => exact named rfl rfl hm
  | marked _ _ ih => exact ih hm

end TypeRef

namespace Schema

open Reporting

def rules : List Rule := [
  ⟨.transform, fun p => p.transform.any (·.input.isSome)⟩,
  ⟨.plain, fun p => p.transform.isSome⟩,
  ⟨.builder, fun p => isGenerated p.declared⟩,
  ⟨.boolean, fun p => p.declared.kind == .boolean⟩,
  ⟨.plain, fun p => p.declared.isScalar⟩,
  ⟨.mapGroup, fun p =>
    p.declared.isMapOfTwo && p.declared.arguments.getLast?.any (·.isMapGroupValue)⟩,
  ⟨.map, fun p => p.declared.isMapOfTwo⟩,
  ⟨.group, fun p =>
    p.declared.isListOfOne && p.declared.arguments.getLast?.any (·.isGroupElement)⟩,
  ⟨.collection, fun p => p.declared.isListOfOne⟩,
  ⟨.plain, fun _ => true⟩]

def firstVariant? (p : DomainProperty) : Option Variant :=
  (rules.find? (·.applies p)).map (·.variant)

variable {ds : List DomainType} {known : KnownDomains} {label : Option String}
  {p : DomainProperty} {s : Schema} {form : Form}

theorem FormOf.firstVariant_of_hint {hint : TransformHint} (h : FormOf known p form)
    (ht : p.transform = some hint) : firstVariant? p = some form.variant := by
  cases h with
  | transform hh hi => simp [firstVariant?, rules, hh, hi, Form.variant]
  | withoutInput hh hi => simp [firstVariant?, rules, hh, hi, Form.variant]
  | builder hn => simp [hn] at ht
  | _ hs => simp [hs.transform] at ht

theorem FormOf.firstVariant_of_generated (h : FormOf known p form) (ht : p.transform = none)
    (hg : isGenerated p.declared = true) : firstVariant? p = some form.variant := by
  cases h with
  | transform hh => simp [hh] at ht
  | withoutInput hh => simp [hh] at ht
  | builder => simp [firstVariant?, rules, ht, hg, Form.variant]
  | _ hs => simp [hs.generated] at hg

theorem FormOf.firstVariant_of_container (h : FormOf known p form) (hs : Structural p)
    (hb : p.declared.kind ≠ .boolean) (hscalar : p.declared.isScalar = false)
    (hx : p.declared.IsMap → ¬ p.declared.IsList) : firstVariant? p = some form.variant := by
  have rest : firstVariant? p = ((rules.drop 5).find? (·.applies p)).map (·.variant) := by
    simp [firstVariant?, rules, hs.transform, hs.generated, hb, hscalar]
  rw [rest]
  cases h with
  | transform hh => simp [hs.transform] at hh
  | withoutInput hh => simp [hs.transform] at hh
  | builder _ hg => simp [hs.generated] at hg
  | boolean _ hk => exact absurd hk hb
  | scalar _ hk => simp [TypeRef.isScalar, hk] at hscalar
  | mapGroup _ hm ha hg =>
    have h2 : p.declared.isMapOfTwo = true := TypeRef.isMapOfTwo_iff.mpr ⟨hm, by simp [ha]⟩
    simp [rules, h2, ha, hg, Form.variant]
  | map _ hm ha hg =>
    have h2 : p.declared.isMapOfTwo = true := TypeRef.isMapOfTwo_iff.mpr ⟨hm, by simp [ha]⟩
    simp [rules, h2, ha, hg, Form.variant]
  | bareMap _ hm hl =>
    have h2 := TypeRef.isMapOfTwo_eq_false fun _ => hl
    have h1 := TypeRef.isListOfOne_eq_false fun h => absurd h (hx hm)
    simp [rules, h2, h1, Form.variant]
  | group _ hm hl ha hg =>
    have h2 := TypeRef.isMapOfTwo_eq_false fun h => absurd h hm
    have h1 : p.declared.isListOfOne = true := TypeRef.isListOfOne_iff.mpr ⟨hl, by simp [ha]⟩
    simp [rules, h2, h1, ha, hg, Form.variant]
  | collection _ hm hl ha hg =>
    have h2 := TypeRef.isMapOfTwo_eq_false fun h => absurd h hm
    have h1 : p.declared.isListOfOne = true := TypeRef.isListOfOne_iff.mpr ⟨hl, by simp [ha]⟩
    simp [rules, h2, h1, ha, hg, Form.variant]
  | bareList _ hm _ hl =>
    have h2 := TypeRef.isMapOfTwo_eq_false fun h => absurd h hm
    have h1 := TypeRef.isListOfOne_eq_false fun _ => hl
    simp [rules, h2, h1, Form.variant]
  | other _ hm hl =>
    have h2 := TypeRef.isMapOfTwo_eq_false fun h => absurd h hm
    have h1 := TypeRef.isListOfOne_eq_false fun h => absurd h hl
    simp [rules, h2, h1, Form.variant]

/-- The schema has the variant of the first rule, and what the property says of itself. -/
structure Chosen (p : DomainProperty) (s : Schema) : Prop where
  variant : firstVariant? p = some s.form.variant
  name : s.name = p.name
  nullable : s.nullable = p.nullable
  default : s.default = p.default

theorem Follows.chosen (h : Follows known p s) (hv : firstVariant? p = some s.form.variant) :
    Chosen p s := by
  obtain ⟨form, rfl, _⟩ := h
  exact ⟨hv, rfl, rfl, rfl⟩

theorem firstVariant_choose (hp : p.Denoted ds) (h : value (choose known label p) = .ok s) :
    firstVariant? p = some s.form.variant := by
  cases choice p with
  | hint ht hc =>
    rw [hc] at h
    have hfollows : Follows known p s := follows_ofHint ht h
    obtain ⟨form, rfl, hform⟩ := hfollows
    exact hform.firstVariant_of_hint ht
  | domain ht hg hc =>
    rw [hc] at h
    obtain ⟨form, rfl, hform⟩ := follows_ofDomain ht hg h
    exact hform.firstVariant_of_generated ht hg
  | boolean hs hk hc =>
    rw [hc] at h
    cases h
    simp [firstVariant?, rules, hs.transform, hs.generated, hk, make, Form.variant]
  | scalar hs hk hc =>
    rw [hc] at h
    obtain ⟨t, _, rfl⟩ := fallback_eq_ok h
    have hb : p.declared.kind ≠ .boolean := by rintro he; simp [he] at hk
    have hscalar : p.declared.isScalar = true := by simpa [TypeRef.isScalar, or_assoc] using hk
    simp [firstVariant?, rules, hs.transform, hs.generated, hb, hscalar, make, Form.variant]
  | container hs hk hc =>
    rw [hc] at h
    obtain ⟨form, rfl, hform⟩ := follows_ofContainer hs h
    simp only [List.mem_cons, not_or, List.not_mem_nil, not_false_eq_true, and_true] at hk
    obtain ⟨hb, hunscaled⟩ := hk
    refine hform.firstVariant_of_container hs hb ?_ hp.declared.not_isList
    simpa [TypeRef.isScalar] using hunscaled

theorem chosen_classify (hp : p.Denoted ds) (h : value (classify known label p) = .ok s) :
    Chosen p s := by
  refine (follows_classify h).chosen ?_
  unfold classify at h
  simp only [value_bind, value_debug, ok_bind, value_liftM, value_pure] at h
  obtain ⟨_, _, h⟩ := bind_eq_ok.mp h
  obtain ⟨chosen, hc, h⟩ := bind_eq_ok.mp h
  cases h
  exact firstVariant_choose hp hc

/-- Every property of an accepted document gets a schema, by the first rule that applies to it. It
does not matter which domains are known, which label stands in the reports, and what was reported
before, which is all that is left of earlier questions. The schemas of a domain stand in the order
of its properties. -/
theorem classify_firstRule {text : String} {doc : Document} {d : DomainType}
    (h : Document.ofText text = .ok doc) (hd : d ∈ doc.domains) (known : KnownDomains)
    (earlier : List Report) :
    (∀ p ∈ d.properties, ∀ label, ∃ s,
      value (do Pass.sayAll earlier; classify known label p) = .ok s ∧ Chosen p s) ∧
    ∃ ss, value (do Pass.sayAll earlier; ofDomainType known d) = .ok ss ∧
      List.Forall₂ (fun p s => value (classify known (some d.qualifiedName) p) = .ok s ∧ Chosen p s)
        d.properties ss := by
  have hdenoted := (Document.closed_of_ofText h).denoted d hd
  simp only [value_bind, Pass.value_sayAll, ok_bind]
  constructor
  · intro p hp label
    have hsettles : Settles (classify known label p) := settles_classify (hdenoted p hp)
    obtain ⟨s, hs⟩ := hsettles.returns
    exact ⟨s, hs, chosen_classify (hdenoted p hp) hs⟩
  · obtain ⟨ss, hss⟩ := (settles_ofDomainType known hdenoted).returns
    refine ⟨ss, hss, ?_⟩
    have hmem := (List.forall₂_and_left d.properties ss).mpr
      ⟨fun _ hp => hp, ofDomainType_eq_ok hss⟩
    exact hmem.imp fun p s ⟨hp, hs⟩ => ⟨hs, chosen_classify (hdenoted p hp) hs⟩

def ruledText : String :=
  "domains:\n- name: A\n  listGroup: 1\n  properties:\n"
    ++ "  - name: b\n    type: List<A>\n  - name: c\n    type: Map<A>"

theorem classify_firstRule_ruledText :
    ∃ doc d ss, Document.ofText ruledText = .ok doc ∧ d ∈ doc.domains ∧
      value (do
        Pass.sayAll [.debug 2 true "mapping 'k'"]
        ofDomainType [] d) = .ok ss ∧
      ss.map (·.form.variant) = [.group, .plain] ∧ List.Forall₂ Chosen d.properties ss := by
  have hy : yields (Document.ofText ruledText) (fun doc => doc.domains.any fun d =>
      d.properties.map firstVariant? == [some .group, some .plain]) = true := by
    decide +kernel
  obtain ⟨doc, h, hy⟩ := exists_of_yields hy
  obtain ⟨d, hd, hy⟩ := List.any_eq_true.mp hy
  obtain ⟨_, ss, hss, hall⟩ := classify_firstRule h hd [] [.debug 2 true "mapping 'k'"]
  have hchosen : List.Forall₂ Chosen d.properties ss := hall.imp fun _ _ h => h.2
  have hv : d.properties.map firstVariant? = ss.map fun s => some s.form.variant := by
    refine List.forall₂_eq_eq_eq ▸ ?_
    exact List.forall₂_map_left_iff.mpr (List.forall₂_map_right_iff.mpr
      (hchosen.imp fun _ _ h => h.variant))
  refine ⟨doc, d, ss, h, hd, hss, ?_, hchosen⟩
  refine List.map_injective_iff.mpr (fun _ _ => Option.some.inj) ?_
  rw [List.map_map]
  exact hv.symm.trans (beq_iff_eq.mp hy)

end Schema

end FluentKotlin
