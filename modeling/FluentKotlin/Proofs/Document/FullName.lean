import FluentKotlin.Proofs.Document.Lookup
import FluentKotlin.Proofs.Document.TypeNotation

/-! # Full names in type texts

A name with a dot in it stands for itself, in whatever package and place of a type text, and for a
domain just where a domain has it as its qualified name. Lists, maps and scalars of the standard
library have full names as well. A name below the package of the scalars that ends like one of them
is taken for that scalar, unless it has arguments. -/

namespace FluentKotlin

open TypeToken

/-! ### Texts with arguments -/

section Texts

variable {registry : Registry} {package name text : String} {texts : List String}
  {as : List TypeRef}

/-- The text is a type by itself, and the reference is what it denotes with its null mark. -/
structure ReadsArgument (registry : Registry) (package text : String) (a : TypeRef) : Prop where
  unmarked : Text.mark ∉ text.toList
  reads : ∃ r nullable, readTypeText registry package text = .ok (r, nullable) ∧
    a = r.withNullable nullable

def appliedText (name : String) (texts : List String) : String :=
  if texts = [] then name else name ++ "<" ++ String.intercalate ", " texts ++ ">"

@[simp] theorem appliedText_nil (name : String) : appliedText name [] = name := if_pos rfl

theorem exists_prints (h : List.Forall₂ (ReadsArgument registry package) texts as) :
    ∃ parts : List (List Char × TypeTree), parts.map (·.1) = texts.map String.toList ∧
      (∀ p ∈ parts, TypeTree.Prints p.1 p.2) ∧
      resolveArguments registry package (parts.map (·.2)) = as := by
  induction h with
  | nil => exact ⟨[], rfl, List.forall_mem_nil _, rfl⟩
  | @cons text a texts as ha _ ih =>
    obtain ⟨parts, htexts, hparts, hargs⟩ := ih
    obtain ⟨r, nullable, hread, rfl⟩ := ha.reads
    obtain ⟨tree, hd, htree⟩ := readTypeText_eq_ok.mp hread
    cases htree
    have hprints : TypeTree.Prints text.toList tree := ⟨_, scans_of_unmarked ha.unmarked, hd⟩
    refine ⟨(text.toList, tree) :: parts, ?_, List.forall_mem_cons.mpr ⟨hprints, hparts⟩, ?_⟩
    · rw [List.map_cons, List.map_cons, htexts]
    · rw [List.map_cons, resolveArguments, hargs]

theorem readTypeText_of_prints {tree : TypeTree} (h : TypeTree.Prints text.toList tree) :
    readTypeText registry package text = .ok (tree.resolve registry package, tree.nullable) := by
  obtain ⟨ts, hs, hd⟩ := h
  rw [← hs.scan_eq] at hd
  exact readTypeText_eq_ok.mpr ⟨tree, hd, rfl⟩

/-- A name with arguments stands for itself and what they are read as. -/
theorem readTypeText_appliedText (hn : Noted name)
    (h : List.Forall₂ (ReadsArgument registry package) texts as) :
    readTypeText registry package (appliedText name texts) =
      .ok (resolveName registry package name as, false) := by
  obtain ⟨parts, htexts, hparts, rfl⟩ := exists_prints h
  obtain ⟨t, ht⟩ := hn.token
  have hprints : TypeTree.Prints (appliedText name texts).toList (.node t (parts.map (·.2)) false) := by
    unfold appliedText
    by_cases hnil : texts = []
    · have hparts : parts = [] := by simpa [hnil] using htexts
      rw [if_pos hnil, hparts]
      exact TypeTree.prints_name ht
    · have hpne : parts ≠ [] := by
        rintro rfl
        exact hnil (by simpa using htexts.symm)
      have happlied := TypeTree.prints_applied ht hpne hparts
      rw [htexts] at happlied
      rw [if_neg hnil]
      simpa [String.toList_intercalate] using happlied
  rw [readTypeText_of_prints hprints, TypeTree.resolve, ht.text]
  rfl

end Texts

/-! ### What a full name stands for -/

def standardNames : List String := listName :: mapName :: scalarNames.map ("kotlin." ++ ·)

/-- A name of more than one segment, none of them empty, that is no standard one. -/
structure FullName (name : String) : Prop where
  noted : Noted name
  dotted : '.' ∈ name.toList
  foreign : name ∉ standardNames

/-- The name is below the package of the scalars, ends like one, and has no arguments. -/
def LooksScalar (name : String) (arity : Nat) : Prop :=
  Text.startsWith "kotlin." name = true ∧ Text.lastSegment name ∈ scalarNames ∧ arity = 0

instance (name : String) (arity : Nat) : Decidable (LooksScalar name arity) :=
  inferInstanceAs (Decidable (_ ∧ _))

theorem LooksScalar.exists_standardRef? {name : String} {as : List TypeRef}
    (h : LooksScalar name as.length) :
    ∃ kind, standardRef? name as = some (.scalar kind (Text.lastSegment name)) := by
  obtain ⟨hstart, hlast, hempty⟩ := h
  have hstandard : isStandard name = true := by
    unfold isStandard
    rw [hstart, Bool.or_true]
  obtain ⟨r, hr⟩ : ∃ r, scalarRef? (Text.lastSegment name) = some r :=
    Option.ne_none_iff_exists'.mp fun hn => scalarRef?_eq_none_iff.mp hn hlast
  obtain ⟨kind, -, -, -, rfl⟩ := TypeRef.scalarRef?_eq_some hr
  refine ⟨kind, ?_⟩
  rw [standardRef?_eq, hstandard, List.length_eq_zero_iff.mp hempty, hr]
  rfl

/-- The reference is to the class of that very name with these arguments, which is a domain just
where one of the domains has the name. -/
structure DenotesItself (ds : List DomainType) (name : String) (arguments : List TypeRef)
    (r : TypeRef) : Prop where
  kind : r.kind = .nominal
  qualifiedName : r.qualifiedName = some name
  arguments : r.arguments = arguments
  generable_iff : r.generable = true ↔ ∃ d ∈ ds, d.qualifiedName = name

namespace FullName

variable {ds : List DomainType} {d : DomainType} {registry : Registry} {package name : String}
  {arity : Nat} {as : List TypeRef}

theorem isBuiltIn_iff (h : FullName name) : IsBuiltIn name arity ↔ LooksScalar name arity := by
  have hlast : name ≠ Text.lastSegment name := fun he =>
    Text.not_mem_lastSegment name (he ▸ h.dotted)
  have hlist : isListName name = false := by
    rw [Bool.eq_false_iff]
    intro hl
    rcases (Bool.or_eq_true _ _).mp hl with he | he
    · exact absurd h.dotted (by rw [beq_iff_eq.mp he]; decide)
    · exact h.foreign (by rw [beq_iff_eq.mp he]; exact List.mem_cons_self)
  have hmap : isMapName name = false := by
    rw [Bool.eq_false_iff]
    intro hm
    rcases (Bool.or_eq_true _ _).mp hm with he | he
    · exact absurd h.dotted (by rw [beq_iff_eq.mp he]; decide)
    · exact h.foreign (by
        rw [beq_iff_eq.mp he]
        exact List.mem_cons_of_mem _ List.mem_cons_self)
  unfold IsBuiltIn LooksScalar isStandard
  rw [hlist, hmap, beq_false_of_ne hlast, Bool.false_or]
  tauto

theorem isNamed_iff (h : FullName name) :
    Document.isNamed name d = true ↔ d.qualifiedName = name := by
  rw [Document.isNamed_iff, or_iff_left]
  exact fun hs => (DomainType.simpleName_eq_ok hs).2 h.dotted

theorem qualify_eq (h : FullName name) : qualify package name = name := by
  have hdot := (Text.contains_iff '.' name).mpr h.dotted
  exact if_pos (by rw [hdot]; rfl)

theorem not_denotesItself (h : FullName name) (hl : LooksScalar name as.length) :
    ¬ DenotesItself ds name as (resolveName registry package name as) := by
  obtain ⟨kind, hs⟩ := hl.exists_standardRef?
  rw [Registry.resolveName_of_standard hs]
  intro hd
  have hq : "kotlin." ++ Text.lastSegment name = name := Option.some.inj hd.qualifiedName
  have hm : "kotlin." ++ Text.lastSegment name ∈ standardNames :=
    List.mem_cons_of_mem _ (List.mem_cons_of_mem _ (List.mem_map_of_mem hl.2.1))
  exact h.foreign (hq ▸ hm)

theorem denotesItself_resolveName_iff (h : FullName name) (hr : registry.Searches ds) :
    DenotesItself ds name as (resolveName registry package name as) ↔
      ¬ LooksScalar name as.length := by
  refine ⟨fun hd hl => h.not_denotesItself hl hd, fun hl => ?_⟩
  have hs : standardRef? name as = none := by
    rw [standardRef?_eq_none_iff_not_isBuiltIn, h.isBuiltIn_iff]
    exact hl
  cases hlookup : registry.lookup name with
  | some d =>
    rw [Registry.resolveName_of_domain hs hlookup]
    rw [hr] at hlookup
    have hname := h.isNamed_iff.mp (List.find?_some hlookup)
    exact ⟨rfl, congrArg some hname, rfl,
      iff_of_true rfl ⟨d, List.mem_of_find?_eq_some hlookup, hname⟩⟩
  | none =>
    rw [Registry.resolveName_of_none hs hlookup, h.qualify_eq]
    rw [hr] at hlookup
    refine ⟨rfl, rfl, rfl, iff_of_false nofun ?_⟩
    rintro ⟨d, hd, hname⟩
    exact List.find?_eq_none.mp hlookup d hd (h.isNamed_iff.mpr hname)

end FullName

theorem DenotesItself.withNullable {ds : List DomainType} {name : String} {as : List TypeRef}
    {r : TypeRef} {nullable : Bool} :
    DenotesItself ds name as (r.withNullable nullable) ↔ DenotesItself ds name as r := by
  constructor <;>
  · rintro ⟨hkind, hname, has, hgenerable⟩
    exact ⟨hkind, hname, has, hgenerable⟩

/-- A full name, with any arguments or none, and in any place of any type text, stands for itself
with its arguments, and for a domain just where a domain has that qualified name, whatever package
it is read in. The only full names that do not are those below the package of the scalars that end
like a scalar and have no arguments. -/
theorem fullName_denotesItself_iff {ds : List DomainType} {registry : Registry} {name : String}
    (hr : Registry.ofDomains ds = .ok registry) (hn : FullName name) (package : String) :
    (∀ texts as, List.Forall₂ (ReadsArgument registry package) texts as →
      ∃ r, readTypeText registry package (appliedText name texts) = .ok (r, false) ∧
        (DenotesItself ds name as r ↔ ¬ LooksScalar name as.length)) ∧
    ∀ text tree, TypeTree.Derives (TypeToken.scan text.toList) tree →
      ∃ r, readTypeText registry package text = .ok (r, tree.nullable) ∧
        ∀ x ∈ tree.places r, x.1.name.text = name →
          (DenotesItself ds name (resolveArguments registry package x.1.arguments) x.2 ↔
            ¬ LooksScalar name x.1.arguments.length) := by
  have hsearches := Registry.searches_of_ofDomains hr
  refine ⟨fun texts as has => ?_, fun text tree hd => ?_⟩
  · exact ⟨_, readTypeText_appliedText hn.noted has, hn.denotesItself_resolveName_iff hsearches⟩
  · refine ⟨_, readTypeText_eq_ok.mpr ⟨tree, hd, rfl⟩, ?_⟩
    rintro ⟨⟨token, arguments, nullable⟩, r⟩ hx hname
    obtain ⟨b, hb⟩ := TypeTree.exists_withNullable_of_mem_places_resolve hx
    have hlength : (resolveArguments registry package arguments).length = arguments.length := by
      rw [resolveArguments_eq_map, List.length_map]
    dsimp only [TypeTree.name, TypeTree.arguments] at hname hb ⊢
    rw [hb, DenotesItself.withNullable, TypeTree.resolve, hname, ← hlength]
    exact hn.denotesItself_resolveName_iff hsearches

/-- The domain has the simple name of a scalar, in a package below that of the scalars. -/
def scalarLike : DomainType := { qualifiedName := "kotlin.ext.String" }

theorem fullName_scalarLike : FullName "kotlin.ext.String" where
  noted := .of_isDotted (by decide +kernel)
  dotted := by decide
  foreign := by decide

theorem exists_registry_scalarLike : ∃ registry, Registry.ofDomains [scalarLike] = .ok registry :=
  let ⟨registry, h, _⟩ := exists_of_yields
    (by decide +kernel : yields (Registry.ofDomains [scalarLike]) (fun _ => true) = true)
  ⟨registry, h⟩

theorem fullName_denotesItself_iff_scalarLike :
    ∃ registry, Registry.ofDomains [scalarLike] = .ok registry ∧ FullName "kotlin.ext.String" ∧
      ∃ a r, readTypeText registry "io.x" "kotlin.ext.String<Int?>" = .ok (r, false) ∧
        DenotesItself [scalarLike] "kotlin.ext.String" [a] r := by
  obtain ⟨registry, hr⟩ := exists_registry_scalarLike
  have hy : yields (TypeTree.ofText "Int?") (fun _ => true) = true := by decide +kernel
  obtain ⟨tree, ht, -⟩ := exists_of_yields hy
  have hargument : readTypeText registry "io.x" "Int?" = .ok _ :=
    readTypeText_eq_ok.mpr ⟨tree, TypeTree.ofText_eq_ok.mp ht, rfl⟩
  have harguments : List.Forall₂ (ReadsArgument registry "io.x") ["Int?"] [_] :=
    .cons ⟨by decide, _, _, hargument, rfl⟩ .nil
  obtain ⟨r, hread, hd⟩ :=
    (fullName_denotesItself_iff hr fullName_scalarLike "io.x").1 _ _ harguments
  refine ⟨registry, hr, fullName_scalarLike, _, r, hread, hd.mpr ?_⟩
  rintro ⟨-, -, h⟩
  cases h

/-- Without arguments the name is taken for the scalar, although there is such a domain. -/
theorem not_denotesItself_scalarLike :
    ∃ registry, Registry.ofDomains [scalarLike] = .ok registry ∧ FullName "kotlin.ext.String" ∧
      ∃ r, readTypeText registry "io.x" "kotlin.ext.String" = .ok (r, false) ∧
        r.qualifiedName = some "kotlin.String" ∧
        ¬ DenotesItself [scalarLike] "kotlin.ext.String" [] r := by
  obtain ⟨registry, hr⟩ := exists_registry_scalarLike
  have hl : LooksScalar "kotlin.ext.String" ([] : List TypeRef).length := by decide +kernel
  have hlast : Text.lastSegment "kotlin.ext.String" = "String" := by decide +kernel
  obtain ⟨kind, hs⟩ := hl.exists_standardRef?
  have hread : readTypeText registry "io.x" (appliedText "kotlin.ext.String" []) = .ok _ :=
    readTypeText_appliedText fullName_scalarLike.noted .nil
  rw [appliedText_nil] at hread
  refine ⟨registry, hr, fullName_scalarLike, _, hread, ?_,
    fullName_scalarLike.not_denotesItself hl⟩
  have hname : "kotlin." ++ "String" = "kotlin.String" := by decide
  rw [Registry.resolveName_of_standard hs, hlast, ← hname]
  rfl

end FluentKotlin
