import FluentKotlin.Proofs.Document.Lookup

/-! # Domains that are declared twice

A document says that a domain is declared more than once where the qualified name of a domain is a
name that one before it has. That other name may be a simple one, so the order of the domains
counts. Only where no domain has the simple name of another as its whole name does the fault mean
two domains with one qualified name. -/

namespace FluentKotlin

variable {ds es : List DomainType} {d : DomainType} {name : String}

/-! ### The first domain whose name is taken -/

/-- A domain before it has the name of the domain, as its qualified or as its simple name. -/
def Taken (before : List DomainType) (d : DomainType) : Prop :=
  ∃ e ∈ before, Document.isNamed d.qualifiedName e = true

def AllFree (ds : List DomainType) : Prop :=
  ds.Pairwise fun d e => ¬ Document.isNamed e.qualifiedName d = true

/-- The first domain whose name is taken has this name. -/
def FirstTaken (name : String) (ds : List DomainType) : Prop :=
  ∃ before d after, ds = before ++ d :: after ∧ AllFree before ∧ Taken before d ∧
    d.qualifiedName = name

theorem allFree_concat : AllFree (ds ++ [d]) ↔ AllFree ds ∧ ¬ Taken ds d := by
  unfold AllFree Taken
  rw [List.pairwise_append]
  simp

theorem firstTaken_concat : FirstTaken name (ds ++ [d]) ↔
    FirstTaken name ds ∨ AllFree ds ∧ Taken ds d ∧ d.qualifiedName = name := by
  constructor
  · rintro ⟨before, e, after, h, hfree, htaken, hname⟩
    rcases List.eq_nil_or_concat after with rfl | ⟨after, f, rfl⟩
    · obtain ⟨rfl, he⟩ := List.append_inj' h rfl
      cases he
      exact Or.inr ⟨hfree, htaken, hname⟩
    · rw [List.concat_eq_append, ← List.cons_append, ← List.append_assoc] at h
      obtain ⟨rfl, -⟩ := List.append_inj' h rfl
      exact Or.inl ⟨before, e, after, rfl, hfree, htaken, hname⟩
  · rintro (⟨before, e, after, rfl, hfree, htaken, hname⟩ | ⟨hfree, htaken, hname⟩)
    · exact ⟨before, e, after ++ [d], by simp, hfree, htaken, hname⟩
    · exact ⟨ds, d, [], rfl, hfree, htaken, hname⟩

theorem allFree_iff : AllFree ds ↔ (ds.map (·.qualifiedName)).Nodup ∧
    ds.Pairwise fun d e => d.simpleName ≠ .ok e.qualifiedName := by
  unfold AllFree List.Nodup
  rw [List.pairwise_map, ← List.pairwise_and_iff]
  simp only [Document.isNamed_iff, not_or, Ne]

/-! ### Registering -/

namespace Registry

variable {registry next : Registry}

theorem addAll_append (registry : Registry) (ds es : List DomainType) :
    registry.addAll (ds ++ es) = registry.addAll ds >>= fun next => next.addAll es := by
  induction ds generalizing registry with
  | nil => rfl
  | cons d ds ih =>
    rw [List.cons_append, addAll, addAll, bind_assoc]
    exact bind_congr ih

theorem ofDomains_concat (ds : List DomainType) (d : DomainType) :
    ofDomains (ds ++ [d]) = ofDomains ds >>= fun next => next.add d := by
  have hone (next : Registry) : next.addAll [d] = next.add d := by
    cases h : next.add d <;> simp [addAll, h, bind, Except.bind]
  unfold ofDomains
  rw [addAll_append]
  exact bind_congr hone

theorem add_of_taken (hr : registry.Searches ds) (h : Taken ds d) :
    registry.add d = .error (.duplicate d.qualifiedName) := by
  obtain ⟨e, he⟩ := Option.isSome_iff_exists.mp (List.find?_isSome.mpr h)
  unfold add
  rw [hr, he]

theorem exists_add_of_not_taken (hr : registry.Searches ds) (h : ¬ Taken ds d)
    (hn : ClassName.IsName d.qualifiedName) : ∃ next, registry.add d = .ok next := by
  have hl : registry.lookup d.qualifiedName = none := by
    rw [hr]
    exact List.find?_eq_none.mpr fun e he hname => h ⟨e, he, hname⟩
  obtain ⟨c, hc⟩ := ClassName.exists_ofQualified hn
  have hs : d.simpleName = .ok c.simpleName := map_eq_ok.mpr ⟨c, hc, rfl⟩
  unfold add
  rw [hl, hs]
  exact ⟨_, rfl⟩

/-- Domains with valid names are registered where their names are free, and elsewhere the first
name that is taken is the fault. -/
theorem ofDomains_cases (hn : ∀ d ∈ ds, ClassName.IsName d.qualifiedName) :
    (AllFree ds ∧ ∃ registry, ofDomains ds = .ok registry) ∨
      ∃ name, FirstTaken name ds ∧ ofDomains ds = .error (.duplicate name) := by
  induction ds using List.reverseRecOn with
  | nil => exact Or.inl ⟨.nil, _, rfl⟩
  | append_singleton ds d ih =>
    obtain ⟨hds, hd⟩ := List.forall_mem_append.mp hn
    rw [ofDomains_concat]
    rcases ih hds with ⟨hfree, registry, hr⟩ | ⟨name, hfirst, he⟩
    · have hsearches := searches_of_ofDomains hr
      rw [hr, ok_bind]
      by_cases htaken : Taken ds d
      · exact Or.inr ⟨_, firstTaken_concat.mpr (Or.inr ⟨hfree, htaken, rfl⟩),
          add_of_taken hsearches htaken⟩
      · exact Or.inl ⟨allFree_concat.mpr ⟨hfree, htaken⟩,
          exists_add_of_not_taken hsearches htaken (hd d (List.mem_singleton_self d))⟩
    · exact Or.inr ⟨name, firstTaken_concat.mpr (Or.inl hfirst), by rw [he]; rfl⟩

end Registry

theorem FirstTaken.not_allFree (h : FirstTaken name ds) : ¬ AllFree ds := by
  obtain ⟨before, d, after, rfl, -, ⟨e, he, hname⟩, -⟩ := h
  intro hfree
  have hpairs := (List.pairwise_append.mp hfree).2.2
  exact hpairs e he d List.mem_cons_self hname

theorem FirstTaken.unique {other : String} (h : FirstTaken name ds) (ho : FirstTaken other ds) :
    name = other := by
  induction ds using List.reverseRecOn with
  | nil =>
    obtain ⟨before, d, after, he, -⟩ := h
    simp at he
  | append_singleton ds d ih =>
    rcases firstTaken_concat.mp h with h | ⟨hfree, -, h⟩
    · rcases firstTaken_concat.mp ho with ho | ⟨hfree, -, -⟩
      · exact ih h ho
      · exact absurd hfree h.not_allFree
    · rcases firstTaken_concat.mp ho with ho | ⟨-, -, ho⟩
      · exact absurd hfree ho.not_allFree
      · exact h.symm.trans ho

theorem Registry.ofDomains_eq_duplicate (hn : ∀ d ∈ ds, ClassName.IsName d.qualifiedName) :
    Registry.ofDomains ds = .error (.duplicate name) ↔ FirstTaken name ds := by
  rcases ofDomains_cases hn with ⟨hfree, registry, hr⟩ | ⟨other, hfirst, he⟩
  · rw [hr]
    exact iff_of_false nofun fun h => h.not_allFree hfree
  · rw [he]
    constructor
    · intro h
      cases h
      exact hfirst
    · intro h
      rw [h.unique hfirst]

/-! ### Readings that say nothing of repetitions -/

section Unrepeated

variable {α β : Type} {v : Value} {entries : Entries} {place key : String}

/-- The reading does not end with a domain that is declared more than once. -/
def Unrepeated (x : Describing α) : Prop := ∀ name, x ≠ .error (.duplicate name)

theorem unrepeated_ok (a : α) : Unrepeated (.ok a) := fun _ => nofun

theorem unrepeated_bind {x : Describing α} {f : α → Describing β} (hx : Unrepeated x)
    (hf : ∀ a, Unrepeated (f a)) : Unrepeated (x >>= f) := by
  cases x with
  | ok a => exact hf a
  | error e =>
    intro name h
    cases h
    exact hx name rfl

theorem unrepeated_mapError {ε : Type} {x : Except ε α} {f : ε → DocumentError}
    (hf : ∀ e name, f e ≠ .duplicate name) : Unrepeated (x.mapError f) := by
  intro name h
  obtain ⟨e, -, he⟩ := mapError_eq_error.mp h
  exact hf e name he

theorem unrepeated_shown : Unrepeated (shown v) := unrepeated_mapError fun _ _ => nofun

theorem unrepeated_textOf : Unrepeated (textOf v) := by
  unfold textOf
  split
  · exact unrepeated_ok _
  · exact unrepeated_bind unrepeated_shown fun _ => unrepeated_ok _

theorem unrepeated_requiredText : Unrepeated (requiredText place key entries) := by
  refine unrepeated_bind unrepeated_textOf fun s => ?_
  split
  · exact fun _ => nofun
  · exact unrepeated_ok _

theorem unrepeated_mappingOf : Unrepeated (mappingOf place v) := by
  unfold mappingOf
  split <;> exact fun _ => nofun

theorem unrepeated_entryOf : Unrepeated (entryOf place v) := by
  unfold entryOf
  split <;> exact fun _ => nofun

theorem unrepeated_literalOf : Unrepeated (literalOf v) := by
  unfold literalOf
  split
  · exact unrepeated_ok _
  · exact unrepeated_shown

variable {registry : Registry} {package text : String} {scope : TypeScope}
  {transforms : Transforms}

theorem unrepeated_readTypeText : Unrepeated (readTypeText registry package text) :=
  unrepeated_mapError fun _ _ => nofun

theorem TransformHint.unrepeated_ofEntry {key : Scalar} :
    Unrepeated (TransformHint.ofEntry registry key v) := by
  have hpackage : Unrepeated (packageOf key) := by
    unfold packageOf
    split <;> exact fun _ => nofun
  have hinput (text : String) : Unrepeated (inputOf registry key text) := by
    unfold inputOf
    split
    · exact unrepeated_ok _
    · exact unrepeated_bind hpackage fun _ =>
        unrepeated_bind unrepeated_readTypeText fun _ => unrepeated_ok _
  exact unrepeated_bind unrepeated_shown fun _ => unrepeated_bind unrepeated_mappingOf fun _ =>
    unrepeated_bind unrepeated_textOf fun text => unrepeated_bind (hinput text) fun _ =>
      unrepeated_bind unrepeated_textOf fun _ => unrepeated_ok _

theorem Transforms.unrepeated_ofEntries {hints : Entries} :
    Unrepeated (Transforms.ofEntries registry transforms hints) := by
  induction hints generalizing transforms with
  | nil => exact unrepeated_ok _
  | cons hint hints ih =>
    obtain ⟨key, v⟩ := hint
    exact unrepeated_bind TransformHint.unrepeated_ofEntry fun _ => ih

theorem DefaultHint.unrepeated_ofValue {declared : TypeRef} :
    Unrepeated (DefaultHint.ofValue scope place declared v) := by
  have htype (v : Value) : Unrepeated (typeOf scope declared v) := by
    unfold typeOf
    split
    · exact unrepeated_ok _
    · exact unrepeated_bind unrepeated_shown fun _ =>
        unrepeated_bind unrepeated_readTypeText fun _ => unrepeated_ok _
  unfold ofValue
  split
  · exact unrepeated_ok _
  · split
    · exact fun _ => nofun
    · exact unrepeated_bind (htype _) fun _ =>
        unrepeated_bind unrepeated_literalOf fun _ => unrepeated_ok _
  · exact unrepeated_bind unrepeated_literalOf fun _ => unrepeated_ok _

theorem DomainProperty.unrepeated_ofEntries {ordinal : Nat} {vs : List Value} :
    Unrepeated (DomainProperty.ofEntries scope transforms place ordinal vs) := by
  have hentry (place : String) (ordinal : Nat) (isLast : Bool) (v : Value) :
      Unrepeated (ofEntry scope transforms place ordinal isLast v) :=
    unrepeated_bind unrepeated_entryOf fun _ => unrepeated_bind unrepeated_requiredText fun _ =>
      unrepeated_bind unrepeated_requiredText fun _ =>
        unrepeated_bind unrepeated_readTypeText fun _ =>
          unrepeated_bind DefaultHint.unrepeated_ofValue fun _ => unrepeated_ok _
  induction vs generalizing ordinal with
  | nil => exact unrepeated_ok _
  | cons v vs ih =>
    exact unrepeated_bind (hentry _ _ _ _) fun _ => unrepeated_bind ih fun _ => unrepeated_ok _

theorem Heading.unrepeated_completeAll {headings : List Heading} :
    Unrepeated (Heading.completeAll registry transforms headings) := by
  induction headings with
  | nil => exact unrepeated_ok _
  | cons heading headings ih =>
    exact unrepeated_bind (unrepeated_bind DomainProperty.unrepeated_ofEntries fun _ =>
      unrepeated_ok _) fun _ => unrepeated_bind ih fun _ => unrepeated_ok _

end Unrepeated

/-! ### Documents -/

namespace Document

variable {text : String}

/-- The text has an entry for each of the domains in their order, which is well formed by itself and
has a valid name. -/
structure Announces (text : String) (ds : List DomainType) : Prop where
  named : ∀ d ∈ ds, ClassName.IsName d.qualifiedName
  read : ∃ entries items headings, sections text = .ok entries ∧
    itemsOf "domains" (fieldOrNull "domains" entries) = .ok items ∧
    List.Forall₂ (fun v h => Heading.ofEntry 0 v = .ok h) items headings ∧
    headings.map (·.domain) = ds

/-- The options of the text, which are read before its domains, are a mapping. -/
def OptionsRead (text : String) : Prop :=
  ∃ entries options, sections text = .ok entries ∧ mappingField "options" entries = .ok options

def Repeats (text : String) : Prop := ∃ name, ofText text = .error (.duplicate name)

/-- Registering its domains is all in a document that can find one declared twice. -/
theorem Announces.ofText_eq_duplicate (h : Announces text ds) :
    ofText text = .error (.duplicate name) ↔
      OptionsRead text ∧ Registry.ofDomains ds = .error (.duplicate name) := by
  obtain ⟨entries, items, headings, hs, hi, hh, rfl⟩ := h.read
  unfold ofText ofEntries
  rw [hs, ok_bind]
  cases ho : mappingField "options" entries with
  | error e =>
    refine iff_of_false ?_ ?_
    · intro he
      cases he
      exact unrepeated_mappingOf name ho
    · rintro ⟨⟨others, options, hothers, hoptions⟩, -⟩
      cases hs.symm.trans hothers
      cases ho.symm.trans hoptions
  | ok options =>
    have hread : OptionsRead text := ⟨entries, options, hs, ho⟩
    rw [ok_bind, hi, ok_bind, Heading.ofEntries_eq_ok.mpr hh, ok_bind, and_iff_right hread]
    cases Registry.ofDomains (headings.map (·.domain)) with
    | error e =>
      constructor <;>
      · intro he
        cases he
        rfl
    | ok registry =>
      refine iff_of_false ?_ nofun
      refine unrepeated_bind unrepeated_mappingOf (fun hints => ?_) name
      exact unrepeated_bind Transforms.unrepeated_ofEntries fun _ =>
        unrepeated_bind Heading.unrepeated_completeAll fun _ => unrepeated_ok _

theorem Announces.repeats_iff (h : Announces text ds) :
    Repeats text ↔ OptionsRead text ∧ ¬ AllFree ds := by
  unfold Repeats
  simp only [h.ofText_eq_duplicate, exists_and_left]
  refine and_congr_right fun _ => ?_
  rcases Registry.ofDomains_cases h.named with ⟨hfree, registry, hr⟩ | ⟨name, hfirst, he⟩
  · rw [hr]
    exact iff_of_false nofun (not_not.mpr hfree)
  · exact iff_of_true ⟨name, he⟩ hfirst.not_allFree

def headingsOf (text : String) : Describing (List Heading) := do
  let entries ← sections text
  let items ← itemsOf "domains" (fieldOrNull "domains" entries)
  Heading.ofEntries 0 items

theorem announces_of_headingsOf {headings : List Heading} (h : headingsOf text = .ok headings)
    (hn : ∀ d ∈ headings.map (·.domain), ClassName.IsName d.qualifiedName) :
    Announces text (headings.map (·.domain)) := by
  obtain ⟨entries, hs, h⟩ := bind_eq_ok.mp h
  obtain ⟨items, hi, h⟩ := bind_eq_ok.mp h
  exact ⟨hn, entries, items, headings, hs, hi, Heading.ofEntries_eq_ok.mp h, rfl⟩

theorem exists_announces {names : List String} (hn : ∀ name ∈ names, ClassName.IsName name)
    (h : yields (headingsOf text) (fun headings =>
      headings.map (·.domain.qualifiedName) == names) = true) :
    ∃ ds, Announces text ds ∧ ds.map (·.qualifiedName) = names := by
  obtain ⟨headings, hh, hnames⟩ := exists_of_yields h
  have hmap : (headings.map (·.domain)).map (·.qualifiedName) = names := by
    rw [List.map_map]
    exact beq_iff_eq.mp hnames
  refine ⟨_, announces_of_headingsOf hh fun d hd => hn _ ?_, hmap⟩
  rw [← hmap]
  exact List.mem_map_of_mem hd

def duplicated? {α : Type} : Describing α → Option String
  | .error (.duplicate name) => some name
  | _ => none

theorem duplicated?_eq_some {α : Type} {x : Describing α} :
    duplicated? x = some name ↔ x = .error (.duplicate name) := by
  constructor
  · intro h
    unfold duplicated? at h
    split at h
    · cases h
      rfl
    · cases h
  · rintro rfl
    rfl

/-- A document whose entries are well formed says that a domain is declared more than once, and
names it, exactly where it is the first to have a name that one before it has. This means two
domains with one qualified name as long as no domain has the simple name of one before it as its
whole name, and in any order of the domains as long as none has the simple name of another. Options
that are no mapping are the fault before. -/
theorem ofText_duplicate_iff (h : Announces text ds) :
    (∀ name, ofText text = .error (.duplicate name) ↔ OptionsRead text ∧ FirstTaken name ds) ∧
    ((Repeats text ↔ ¬ (ds.map (·.qualifiedName)).Nodup) ↔
      if (ds.map (·.qualifiedName)).Nodup then
        OptionsRead text → ds.Pairwise fun d e => d.simpleName ≠ .ok e.qualifiedName
      else OptionsRead text) ∧
    ((∀ d ∈ ds, ∀ e ∈ ds, d.simpleName = .ok e.qualifiedName →
        d.qualifiedName = e.qualifiedName) →
      ∀ other es, Announces other es → OptionsRead other → ds.Perm es →
        (Repeats other ↔ ¬ (ds.map (·.qualifiedName)).Nodup)) := by
  refine ⟨fun name => ?_, ?_, fun hapart other es ho hread hp => ?_⟩
  · rw [h.ofText_eq_duplicate, Registry.ofDomains_eq_duplicate h.named]
  · rw [h.repeats_iff, allFree_iff]
    split <;> tauto
  · have hnodup : (ds.map (·.qualifiedName)).Nodup ↔ (es.map (·.qualifiedName)).Nodup :=
      (hp.map _).nodup_iff
    rw [ho.repeats_iff, and_iff_right hread, allFree_iff, hnodup, not_iff_not,
      and_iff_left_iff_imp]
    intro hd
    refine List.Pairwise.imp_of_mem ?_ (List.pairwise_map.mp hd)
    intro d e hde hee hne hs
    exact hne (hapart d (hp.mem_iff.mpr hde) e (hp.mem_iff.mpr hee) hs)

def twiceText : String := "domains:\n- name: io.x.A\n- name: io.x.A"

theorem ofText_duplicate_iff_twiceText : ∃ ds, Announces twiceText ds ∧
    ds.map (·.qualifiedName) = ["io.x.A", "io.x.A"] ∧ FirstTaken "io.x.A" ds := by
  have hn : ∀ name ∈ ["io.x.A", "io.x.A"], ClassName.IsName name := by
    unfold ClassName.IsName
    decide +kernel
  obtain ⟨ds, h, hnames⟩ : ∃ ds, Announces twiceText ds ∧ ds.map (·.qualifiedName) = _ :=
    exists_announces hn (by decide +kernel)
  have hfault : ofText twiceText = .error (.duplicate "io.x.A") :=
    duplicated?_eq_some.mp (by decide +kernel)
  exact ⟨ds, h, hnames, (((ofText_duplicate_iff h).1 "io.x.A").mp hfault).2⟩

/-- The whole name of the second domain is the simple name of the first. -/
def simpleNameText : String := "domains:\n- name: io.x.A\n- name: A"

def simpleNameFirstText : String := "domains:\n- name: A\n- name: io.x.A"

theorem ofText_duplicate_simpleNameText : ∃ ds es,
    Announces simpleNameText ds ∧ ds.map (·.qualifiedName) = ["io.x.A", "A"] ∧
    ¬ (Repeats simpleNameText ↔ ¬ (ds.map (·.qualifiedName)).Nodup) ∧
    Announces simpleNameFirstText es ∧ es.map (·.qualifiedName) = ["A", "io.x.A"] ∧
    ¬ Repeats simpleNameFirstText := by
  have hn : ∀ name ∈ ["io.x.A", "A"], ClassName.IsName name := by
    unfold ClassName.IsName
    decide +kernel
  have hn' : ∀ name ∈ ["A", "io.x.A"], ClassName.IsName name := by
    unfold ClassName.IsName
    decide +kernel
  obtain ⟨ds, hd, hds⟩ : ∃ ds, Announces simpleNameText ds ∧ ds.map (·.qualifiedName) = _ :=
    exists_announces hn (by decide +kernel)
  obtain ⟨es, he, hes⟩ : ∃ es, Announces simpleNameFirstText es ∧ es.map (·.qualifiedName) = _ :=
    exists_announces hn' (by decide +kernel)
  have hrepeats : Repeats simpleNameText := ⟨"A", duplicated?_eq_some.mp (by decide +kernel)⟩
  have hnone : duplicated? (ofText simpleNameFirstText) = none := by decide +kernel
  refine ⟨ds, es, hd, hds, ?_, he, hes, ?_⟩
  · rw [hds]
    exact fun h => h.mp hrepeats (by decide)
  · rintro ⟨name, hname⟩
    rw [duplicated?_eq_some.mpr hname] at hnone
    cases hnone

end Document

end FluentKotlin
