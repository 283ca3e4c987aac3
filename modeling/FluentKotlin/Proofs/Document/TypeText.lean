import FluentKotlin.Proofs.Document.TypeGrammar

/-! # Type texts and what they denote

Every name that is read in a type text spells something, wherever it stands in the text. So every
reference that the text of a type gives is denoted, given the domains that the names of the
document stand for.
-/

namespace FluentKotlin

namespace TypeToken

theorem spells_word {c : Char} (hb : Text.isBlank c = false) (hw : startsWord c = true)
    (cs : List Char) : ClassName.Spells (word c cs).text := by
  refine ⟨c, by simp [text, chars], hb, ?_⟩
  rintro rfl
  revert hw
  decide

theorem spells_mark {c : Char} (hb : Text.isBlank c = false) (hn : (mark c).isName = true) :
    ClassName.Spells (mark c).text := by
  refine ⟨c, by simp [text, chars], hb, ?_⟩
  rintro rfl
  revert hn
  decide +kernel

theorem spells_of_mem_scan {t : TypeToken} {cs : List Char} (h : t ∈ scan cs)
    (hn : t.isName = true) : ClassName.Spells t.text := by
  fun_induction scan cs with
  | case1 => cases h
  | case2 c cs _ ih => exact ih h
  | case3 c cs hb hw ih =>
    rcases List.mem_cons.mp h with rfl | h
    · exact spells_word (by simpa using hb) hw _
    · exact ih h
  | case4 cs _ _ ih =>
    rcases List.mem_append.mp h with hr | h
    · obtain ⟨d, _, rfl⟩ := List.mem_map.mp hr
      cases hn
    · exact ih h
  | case5 c cs hb _ _ ih =>
    rcases List.mem_cons.mp h with rfl | h
    · exact spells_mark (by simpa using hb) hn
    · exact ih h

end TypeToken

namespace TypeTree

inductive Spelled : TypeTree → Prop where
  | node {name : TypeToken} {arguments : List TypeTree} {nullable : Bool} :
      ClassName.Spells name.text → (∀ a ∈ arguments, Spelled a) →
      Spelled (.node name arguments nullable)

theorem Spelled.marked {name : TypeToken} {arguments : List TypeTree} {a b : Bool}
    (h : TypeTree.Spelled (.node name arguments a)) :
    TypeTree.Spelled (.node name arguments b) := by
  cases h with
  | node hs ha => exact .node hs ha

theorem Derives.spelled {ts : List TypeToken} {tree : TypeTree} (h : Derives ts tree)
    (hs : ∀ t ∈ ts, t.isName = true → ClassName.Spells t.text) : tree.Spelled := by
  induction h with
  | @name name hn => exact .node (hs name List.mem_cons_self hn) (List.forall_mem_nil _)
  | @applied name parts hn _ _ ih =>
    refine .node (hs name (by simp) hn) fun a ha => ?_
    obtain ⟨p, hp, rfl⟩ := List.mem_map.mp ha
    exact ih p hp fun t ht => hs t (mem_applied hp ht)
  | marked _ ih => exact (ih fun t ht => hs t (List.mem_append_left _ ht)).marked

theorem spelled_of_ofText {text : String} {tree : TypeTree} (h : ofText text = .ok tree) :
    tree.Spelled :=
  (ofText_eq_ok.mp h).spelled fun _ ht hn => TypeToken.spells_of_mem_scan ht hn

end TypeTree

theorem spells_qualify {name : String} (h : ClassName.Spells name) (package : String) :
    ClassName.Spells (qualify package name) := by
  unfold qualify
  split
  · exact h
  · exact h.append_left _

/-- The names of the registry stand for domains that have names themselves. -/
structure Registry.Covers (ds : List DomainType) (registry : Registry) : Prop where
  mem : ∀ {name : String} {d : DomainType}, registry.lookup name = some d → d ∈ ds
  isName : ∀ d ∈ ds, ClassName.IsName d.qualifiedName

variable {ds : List DomainType} {registry : Registry}

theorem denoted_of_standardRef? {name : String} {arguments : List TypeRef} {r : TypeRef}
    (ha : ∀ a ∈ arguments, a.Denoted ds) (h : standardRef? name arguments = some r) :
    r.Denoted ds := by
  cases standardRef_of_eq_some h with
  | scalar hs => exact .scalar hs
  | collection => exact .collection (ha _ List.mem_cons_self)
  | map => exact .map (ha _ List.mem_cons_self) (ha _ (List.mem_cons_of_mem _ List.mem_cons_self))
  | nominal =>
    have hk : ClassName.Spells "kotlin.collections." := ⟨'k', by decide, by decide, by decide⟩
    exact .nominal (hk.append_right _).isName ha

theorem Registry.Covers.denoted_domainRef (hc : registry.Covers ds) {package name : String}
    {arguments : List TypeRef} (hn : ClassName.Spells name) (ha : ∀ a ∈ arguments, a.Denoted ds) :
    (domainRef registry package name arguments).Denoted ds := by
  unfold domainRef
  cases hd : registry.lookup name with
  | some d =>
    have hm := hc.mem hd
    exact .generated hm (hc.isName d hm) ha
  | none => exact .nominal (spells_qualify hn package).isName ha

theorem Registry.Covers.denoted_resolveName (hc : registry.Covers ds) {package name : String}
    {arguments : List TypeRef} (hn : ClassName.Spells name) (ha : ∀ a ∈ arguments, a.Denoted ds) :
    (resolveName registry package name arguments).Denoted ds := by
  unfold resolveName
  cases h : standardRef? name arguments with
  | some r => exact denoted_of_standardRef? ha h
  | none => exact hc.denoted_domainRef hn ha

theorem resolveArguments_eq_map (package : String) (ts : List TypeTree) :
    resolveArguments registry package ts =
      ts.map fun t => (t.resolve registry package).withNullable t.nullable := by
  induction ts with
  | nil => simp [resolveArguments]
  | cons t ts ih => simp [resolveArguments, ih]

theorem Registry.Covers.denoted_resolve (hc : registry.Covers ds) {package : String}
    {tree : TypeTree} (h : tree.Spelled) : (tree.resolve registry package).Denoted ds := by
  induction h with
  | node hn _ ih =>
    unfold TypeTree.resolve
    refine hc.denoted_resolveName hn ?_
    rw [resolveArguments_eq_map]
    intro a ha
    obtain ⟨t, ht, rfl⟩ := List.mem_map.mp ha
    exact .marked _ (ih t ht)

/-- A type text gives a reference that is denoted. -/
theorem Registry.Covers.denoted_readType (hc : registry.Covers ds) {package text : String}
    {r : TypeRef} {b : Bool} (h : readType registry package text = .ok (r, b)) : r.Denoted ds := by
  unfold readType at h
  obtain ⟨tree, ht, hr⟩ := bind_eq_ok.mp h
  cases hr
  exact hc.denoted_resolve (TypeTree.spelled_of_ofText ht)

end FluentKotlin
