import FluentKotlin.Proofs.Document.Entries
import FluentKotlin.Proofs.Document.Registered
import FluentKotlin.Proofs.Document.Renamed
import FluentKotlin.Proofs.Document.Sections
import FluentKotlin.Proofs.Pointwise

/-! # Domains in another order

Nothing that is read from a document depends on the order of its domains, as long as they have
simple names of their own: the registry answers the same for every name, and everything else is read
from the entry of one domain and the answers of the registry. Entries that contain themselves may
have other names in the other order.
-/

namespace FluentKotlin

mutual

theorem TypeTree.resolve_congr {registry other : Registry}
    (hn : resolveName registry = resolveName other) (package : String) :
    ∀ t : TypeTree, t.resolve registry package = t.resolve other package
  | .node name arguments _ => by
    rw [TypeTree.resolve, TypeTree.resolve, hn, resolveArguments_congr hn package arguments]

theorem resolveArguments_congr {registry other : Registry}
    (hn : resolveName registry = resolveName other) (package : String) :
    ∀ ts : List TypeTree,
      resolveArguments registry package ts = resolveArguments other package ts
  | [] => by rw [resolveArguments, resolveArguments]
  | t :: ts => by
    rw [resolveArguments, resolveArguments, TypeTree.resolve_congr hn package t,
      resolveArguments_congr hn package ts]

end

section SameNames

variable {registry other : Registry} (h : ∀ name, registry.lookup name = other.lookup name)

include h

/-- A type text denotes the same in registries that agree on every name. -/
theorem readTypeText_congr : readTypeText registry = readTypeText other := by
  have hn : resolveName registry = resolveName other := by
    funext package name arguments
    unfold resolveName domainRef
    rw [h]
  funext package text
  unfold readTypeText readType
  simp only [TypeTree.resolve_congr hn]

theorem Transforms.ofEntries_congr (ts : Transforms) (entries : Entries) :
    Transforms.ofEntries registry ts entries = Transforms.ofEntries other ts entries := by
  have hinput : TransformHint.inputOf registry = TransformHint.inputOf other := by
    funext key text
    unfold TransformHint.inputOf
    rw [readTypeText_congr h]
  induction entries generalizing ts with
  | nil => rfl
  | cons entry entries ih =>
    unfold Transforms.ofEntries TransformHint.ofEntry
    rw [hinput]
    simp only [ih]

theorem Heading.complete_congr (transforms : Transforms) :
    Heading.complete registry transforms = Heading.complete other transforms := by
  funext heading
  have hread : TypeScope.read (heading.scope registry) = TypeScope.read (heading.scope other) := by
    funext text
    unfold TypeScope.read Heading.scope
    rw [readTypeText_congr h]
  have hentry : DomainProperty.ofEntry (heading.scope registry) transforms =
      DomainProperty.ofEntry (heading.scope other) transforms := by
    funext place ordinal isLast v
    unfold DomainProperty.ofEntry DefaultHint.ofValue DefaultHint.typeOf
    rw [hread]
  have hentries (place : String) (ordinal : Nat) (vs : List Value) :
      DomainProperty.ofEntries (heading.scope registry) transforms place ordinal vs =
        DomainProperty.ofEntries (heading.scope other) transforms place ordinal vs := by
    induction vs generalizing ordinal with
    | nil => rfl
    | cons v vs ih =>
      unfold DomainProperty.ofEntries
      rw [hentry, ih]
  unfold Heading.complete
  rw [hentries]

end SameNames

theorem trim_of_textField {key s : String} {entries : Entries}
    (h : textField key entries = .ok s) : Text.trim s = s := by
  unfold textField textOf at h
  split at h
  · cases h
    rfl
  · obtain ⟨t, _, h⟩ := bind_eq_ok.mp h
    cases h
    exact Text.trim_trim t

namespace Heading

variable {h : Heading} {v : Value}

def simpleName? (v : Value) : Option String :=
  match entryOf "" v >>= textField "name" with
  | .ok name => (ClassName.ofQualified name).toOption.map (·.simpleName)
  | .error _ => none

theorem name_of_ofEntry {index : Nat} (hv : ofEntry index v = .ok h) :
    Text.trim h.domain.qualifiedName = h.domain.qualifiedName ∧
      simpleName? v = h.domain.simpleName.toOption := by
  obtain ⟨entries, he, hv⟩ := bind_eq_ok.mp hv
  obtain ⟨name, hn, hv⟩ := bind_eq_ok.mp hv
  obtain ⟨mapGroup, _, hv⟩ := bind_eq_ok.mp hv
  obtain ⟨isRoot, _, hv⟩ := bind_eq_ok.mp hv
  obtain ⟨listGroup, _, hv⟩ := bind_eq_ok.mp hv
  obtain ⟨properties, _, hv⟩ := bind_eq_ok.mp hv
  cases hv
  obtain ⟨ht, _⟩ := requiredText_eq_ok.mp hn
  refine ⟨trim_of_textField ht, ?_⟩
  unfold simpleName? DomainType.simpleName DomainType.className
  rw [entryOf_eq_ok.mpr (entryOf_eq_ok.mp he), ok_bind, ht]
  dsimp only
  cases ClassName.ofQualified name <;> rfl

theorem simpleName?_rename {σ : Equiv.Perm Nat} (v : Value) :
    simpleName? (v.rename σ) = simpleName? v := by
  unfold simpleName?
  rw [entryOf_rename]
  cases entryOf "" v with
  | error e => rfl
  | ok entries => rw [Except.map, ok_bind, ok_bind, textField_renameEntries]

theorem apart_of_forall₂ {vs : List Value} {hs : List Heading}
    (h : List.Forall₂ (fun v h => ofEntry 0 v = .ok h) vs hs)
    (hn : ∀ d ∈ hs.map (·.domain), ∃ s, d.simpleName = .ok s)
    (hd : (vs.filterMap simpleName?).Nodup) : Apart (hs.map (·.domain)) where
  trimmed := by
    intro d hm
    obtain ⟨heading, hh, rfl⟩ := List.mem_map.mp hm
    obtain ⟨v, _, hv⟩ := exists_mem_left h hh
    exact (name_of_ofEntry hv).1
  named := hn
  distinct := by
    have names : (hs.map (·.domain)).map (·.simpleName) =
        (vs.filterMap simpleName?).map .ok := by
      clear hd
      induction h with
      | nil => rfl
      | cons hv _ ih =>
        obtain ⟨⟨s, hs⟩, hn⟩ := List.forall_mem_cons.mp hn
        have hsome := (name_of_ofEntry hv).2
        rw [hs] at hsome
        rw [List.map_cons, List.map_cons, ih hn, hs, List.filterMap_cons_some hsome,
          List.map_cons]
    rw [names]
    exact hd.map fun _ _ he => Except.ok.inj he

end Heading

namespace Document

variable {entries shuffled : Entries} {items moved : List Value} {doc other : Document}

variable {σ : Equiv.Perm Nat}

theorem Reads.rename {headings : List Heading} {registry : Registry} {hints : Entries}
    (h : Reads entries doc items headings registry hints) (σ : Equiv.Perm Nat) :
    Reads (Value.renameEntries σ entries)
      { doc with options := Value.renameEntries σ doc.options } (items.map (Value.rename σ))
      (headings.map (Heading.rename σ)) registry (Value.renameEntries σ hints) where
  readOptions := by
    rw [mappingField_renameEntries, h.readOptions]
    rfl
  readItems := by
    rw [Value.fieldOrNull_renameEntries, itemsOf_rename, h.readItems, ← Value.renameItems_eq_map]
    rfl
  readHeadings := List.forall₂_map_left_iff.mpr (List.forall₂_map_right_iff.mpr
    (h.readHeadings.imp fun _ _ => Heading.ofEntry_rename))
  readRegistry := by
    rw [List.map_map]
    exact h.readRegistry
  readHints := by
    rw [mappingField_renameEntries, h.readHints]
    rfl
  readTransforms := by
    rw [Transforms.ofEntries_renameEntries]
    exact h.readTransforms
  readDomains := List.forall₂_map_left_iff.mpr (h.readDomains.imp fun heading _ hd =>
    (Heading.complete_rename registry doc.transforms heading).trans hd)

/-- The sections are the same but for the names inside of them and for the order of the domains,
which have simple names of their own. -/
structure Reordered (σ : Equiv.Perm Nat) (entries shuffled : Entries) (items moved : List Value) :
    Prop where
  others : ∀ key, key ≠ "domains" →
    field? key shuffled = (field? key entries).map (Value.rename σ)
  inOrder : itemsOf "domains" (fieldOrNull "domains" entries) = .ok items
  inOther : itemsOf "domains" (fieldOrNull "domains" shuffled) = .ok moved
  perm : (items.map (Value.rename σ)).Perm moved
  distinct : (items.filterMap Heading.simpleName?).Nodup

theorem Reordered.symm (h : Reordered σ entries shuffled items moved) :
    Reordered σ⁻¹ shuffled entries moved items where
  others key hk := by
    rw [h.others key hk, Option.map_map]
    cases field? key entries with
    | none => rfl
    | some v => simp [Value.rename_rename, Value.rename_one]
  inOrder := h.inOther
  inOther := h.inOrder
  perm := by
    have hp := h.perm.map (Value.rename σ⁻¹)
    simp only [List.map_map, Function.comp_def, Value.rename_rename, inv_mul_cancel,
      Value.rename_one, List.map_id'] at hp
    exact hp.symm
  distinct := by
    have hp := h.perm.filterMap Heading.simpleName?
    rw [List.filterMap_map] at hp
    simp only [Function.comp_def, Heading.simpleName?_rename] at hp
    exact hp.nodup_iff.mp h.distinct

theorem Reordered.mappingField_eq (h : Reordered σ entries shuffled items moved) {key : String}
    (hk : key ≠ "domains") :
    mappingField key shuffled = mappingField key (Value.renameEntries σ entries) := by
  unfold mappingField fieldOrNull
  rw [h.others key hk, Value.field?_renameEntries]

/-- The documents have the same domains, in the orders of their entries, and else are the same. -/
structure Matches (σ : Equiv.Perm Nat) (items moved : List Value) (doc other : Document) : Prop
    where
  options : other.options = Value.renameEntries σ doc.options
  transforms : other.transforms = doc.transforms
  domains : doc.domains.Perm other.domains
  placed : ((items.map (Value.rename σ)).zip doc.domains).Perm (moved.zip other.domains)

/-- Where the one document is accepted, so is the other. -/
theorem Reordered.exists_matching (h : Reordered σ entries shuffled items moved)
    (hd : ofEntries entries = .ok doc) :
    ∃ other, ofEntries shuffled = .ok other ∧ Matches σ items moved doc other := by
  obtain ⟨read, headings, registry, hints, hreads⟩ := ofEntries_eq_ok.mp hd
  obtain rfl : items = read := Except.ok.inj (h.inOrder.symm.trans hreads.readItems)
  have hrenamed := hreads.rename σ
  have hapart : Apart ((headings.map (Heading.rename σ)).map (·.domain)) := by
    rw [List.map_map]
    exact Heading.apart_of_forall₂ hreads.readHeadings
      (Registry.named_of_addAll hreads.readRegistry) h.distinct
  obtain ⟨headings', hheadings', hp⟩ := List.perm_comp_forall₂ h.perm.symm hrenamed.readHeadings
  obtain ⟨registry', hregistry', hindexes'⟩ :=
    Registry.exists_ofDomains (hapart.perm (hp.symm.map _))
  obtain ⟨found, hfound, hindexes⟩ := Registry.exists_ofDomains hapart
  obtain rfl : registry = found := Except.ok.inj (hrenamed.readRegistry.symm.trans hfound)
  have hnames := hindexes.lookup_eq hindexes' (hp.symm.map _)
  obtain ⟨domains', hdomains', hpd⟩ := List.perm_comp_forall₂ hp hrenamed.readDomains
  have hreads' : Reads shuffled ⟨Value.renameEntries σ doc.options, doc.transforms, domains'⟩ moved
      headings' registry' (Value.renameEntries σ hints) := {
    readOptions := (h.mappingField_eq (by decide)).trans hrenamed.readOptions
    readItems := h.inOther
    readHeadings := hheadings'
    readRegistry := hregistry'
    readHints := (h.mappingField_eq (by decide)).trans hrenamed.readHints
    readTransforms := (Transforms.ofEntries_congr hnames [] _).symm.trans hrenamed.readTransforms
    readDomains := by
      rw [← Heading.complete_congr hnames]
      exact hdomains' }
  refine ⟨_, ofEntries_eq_ok.mpr ⟨_, _, _, _, hreads'⟩, rfl, rfl, hpd.symm, ?_⟩
  refine perm_zip_of_forall₂ ?_ (forall₂_comp hrenamed.readHeadings hrenamed.readDomains)
    (forall₂_comp hheadings' hdomains') h.perm
  rintro v d e ⟨heading, hh, hd⟩ ⟨heading', hh', he⟩
  cases hh.symm.trans hh'
  exact Except.ok.inj (hd.symm.trans he)

end Document

end FluentKotlin
