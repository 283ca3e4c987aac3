import FluentKotlin.Document.Transform
import FluentKotlin.Proofs.Domain.Denotation

/-! # The grammar of type texts

A type is a name, with types between angle brackets where it has arguments, and with a question mark
behind it where it is nullable. The reader accepts exactly the tokens that this grammar derives, and
the tree that it builds is their only derivation.
-/

namespace FluentKotlin

namespace TypeToken

theorem scan_of_blank {cs : List Char} (h : ∀ c ∈ cs, Text.isBlank c = true) : scan cs = [] := by
  induction cs with
  | nil => exact scan_nil
  | cons c cs ih =>
    obtain ⟨hc, hcs⟩ := List.forall_mem_cons.mp h
    rw [scan_blank hc, ih hcs]

theorem scan_of_trim {text : String} (h : Text.trim text = "") : scan text.toList = [] := by
  refine scan_of_blank fun c hc => ?_
  by_contra hb
  have hm := Text.mem_trimChars hc (by simpa using hb)
  rw [← Text.toList_trim, h] at hm
  cases hm

end TypeToken

namespace TypeTree

def listed (parts : List (List TypeToken)) : List TypeToken := [.mark ','].intercalate parts

/-- The tokens that the grammar derives, with the tree of the derivation. -/
inductive Derives : List TypeToken → TypeTree → Prop where
  | name {name : TypeToken} : name.isName = true → Derives [name] (.node name [] false)
  | applied {name : TypeToken} {parts : List (List TypeToken × TypeTree)} :
      name.isName = true → parts ≠ [] → (∀ p ∈ parts, Derives p.1 p.2) →
      Derives (name :: .mark '<' :: listed (parts.map (·.1)) ++ [.mark '>'])
        (.node name (parts.map (·.2)) false)
  | marked {name : TypeToken} {arguments : List TypeTree} {ts : List TypeToken} :
      Derives ts (.node name arguments false) →
      Derives (ts ++ [.mark '?']) (.node name arguments true)

variable {name token : TypeToken} {tree other : TypeTree} {ts before : List TypeToken}
  {parts : List (List TypeToken × TypeTree)} {os : List Open} {r next : Reader}

section Listed

@[simp] theorem listed_singleton (ts : List TypeToken) : listed [ts] = ts := by
  simp [listed]

theorem mem_applied {p : List TypeToken × TypeTree} (hp : p ∈ parts) (ht : token ∈ p.1) :
    token ∈ name :: .mark '<' :: listed (parts.map (·.1)) ++ [.mark '>'] := by
  have hl : token ∈ listed (parts.map (·.1)) :=
    Text.mem_intercalate_of_mem (List.mem_map_of_mem hp) ht
  exact List.mem_append_left _ (List.mem_cons_of_mem _ (List.mem_cons_of_mem _ hl))

theorem listed_cons {rest : List (List TypeToken)} (h : rest ≠ []) (ts : List TypeToken) :
    listed (ts :: rest) = ts ++ .mark ',' :: listed rest := by
  cases rest with
  | nil => exact absurd rfl h
  | cons us rest => simp [listed]

theorem listed_concat (rest : List (List TypeToken)) (ts : List TypeToken) :
    listed (rest ++ [ts]) = (rest.flatMap fun us => us ++ [.mark ',']) ++ ts := by
  induction rest with
  | nil => simp
  | cons us rest ih =>
    rw [List.cons_append, listed_cons (by simp), ih]
    simp

end Listed

/-! ### What is derived is accepted -/

def ending : TypeTree → Position
  | .node name arguments true => .complete (.node name arguments true)
  | .node name [] false => .afterName name
  | .node name (a :: as) false => .afterArguments name (a :: as)

theorem tree?_ending (t : TypeTree) : t.ending.tree? = some t := by
  obtain ⟨name, _ | ⟨a, as⟩, _ | _⟩ := t <;> rfl

theorem step_ending_comma (o : Open) (t : TypeTree) :
    Reader.step ⟨o :: os, t.ending⟩ (.mark ',') =
      .ok ⟨⟨o.name, o.arguments ++ [t]⟩ :: os, .start⟩ := by
  obtain ⟨name, _ | ⟨a, as⟩, _ | _⟩ := t <;> rfl

theorem step_ending_close (o : Open) (t : TypeTree) :
    Reader.step ⟨o :: os, t.ending⟩ (.mark '>') =
      .ok ⟨os, .afterArguments o.name (o.arguments ++ [t])⟩ := by
  obtain ⟨name, _ | ⟨a, as⟩, _ | _⟩ := t <;> rfl

theorem step_ending_mark (arguments : List TypeTree) :
    Reader.step ⟨os, (TypeTree.node name arguments false).ending⟩ (.mark '?') =
      .ok ⟨os, .complete (.node name arguments true)⟩ := by
  cases arguments <;> rfl

theorem run_of_step (h : r.step token = .ok next) (rest : List TypeToken) :
    run r (token :: rest) = run next rest := by
  rw [run, h]

theorem run_name (h : name.isName = true) (rest : List TypeToken) :
    run ⟨os, .start⟩ (name :: rest) = run ⟨os, .afterName name⟩ rest :=
  run_of_step (by simp [Reader.step, h]) rest

def Passes (ts : List TypeToken) (tree : TypeTree) : Prop :=
  ∀ os rest, run ⟨os, .start⟩ (ts ++ rest) = run ⟨os, tree.ending⟩ rest

theorem run_listed (hne : parts ≠ []) (h : ∀ p ∈ parts, Passes p.1 p.2) (done : List TypeTree)
    (rest : List TypeToken) :
    run ⟨⟨name, done⟩ :: os, .start⟩ (listed (parts.map (·.1)) ++ .mark '>' :: rest) =
      run ⟨os, .afterArguments name (done ++ parts.map (·.2))⟩ rest := by
  induction parts generalizing done with
  | nil => exact absurd rfl hne
  | cons p parts ih =>
    obtain ⟨hp, hparts⟩ := List.forall_mem_cons.mp h
    by_cases hnil : parts = []
    · subst hnil
      simp only [List.map_cons, List.map_nil, listed_singleton]
      rw [hp, run_of_step (step_ending_close _ _)]
    · rw [List.map_cons, listed_cons (by simpa using hnil), List.append_assoc, hp,
        List.cons_append, run_of_step (step_ending_comma _ _), ih hnil hparts]
      simp

theorem Derives.passes (h : Derives ts tree) : Passes ts tree := by
  induction h with
  | name hn => exact fun os rest => run_name hn rest
  | @applied name parts hn hne _ ih =>
    intro os rest
    have hopen : Reader.step ⟨os, .afterName name⟩ (.mark '<') = .ok ⟨⟨name, []⟩ :: os, .start⟩ :=
      rfl
    obtain ⟨p, ps, rfl⟩ := List.exists_cons_of_ne_nil hne
    simp only [List.cons_append, List.append_assoc, List.nil_append]
    rw [run_name hn, run_of_step hopen, run_listed hne ih]
    rfl
  | marked _ ih =>
    intro os rest
    rw [List.append_assoc, ih, List.singleton_append, run_of_step (step_ending_mark _), ending]

theorem Derives.ofTokens (h : Derives ts tree) : ofTokens ts = .ok tree := by
  have hp := h.passes [] []
  rw [List.append_nil] at hp
  rw [TypeTree.ofTokens, Reader.initial, hp, run, Reader.finish, tree?_ending]

/-! ### What is accepted is derived -/

/-- The tokens behind which so many types have open argument lists. -/
inductive Pending : List Open → List TypeToken → Prop where
  | nil : Pending [] []
  | cons {os : List Open} {before : List TypeToken} {name : TypeToken}
      {parts : List (List TypeToken × TypeTree)} : Pending os before → name.isName = true →
      (∀ p ∈ parts, Derives p.1 p.2) →
      Pending (⟨name, parts.map (·.2)⟩ :: os)
        (before ++ name :: .mark '<' :: (parts.map (·.1)).flatMap fun us => us ++ [.mark ','])

/-- The tokens of the type behind which the reader stands. -/
inductive Position.Reads : Position → List TypeToken → Prop where
  | start : Position.Reads .start []
  | afterName {name : TypeToken} : name.isName = true → Position.Reads (.afterName name) [name]
  | afterArguments {name : TypeToken} {arguments : List TypeTree} {ts : List TypeToken} :
      Derives ts (.node name arguments false) → Position.Reads (.afterArguments name arguments) ts
  | complete {tree : TypeTree} {ts : List TypeToken} : Derives ts tree →
      Position.Reads (.complete tree) ts

/-- The reader stands behind these tokens. -/
inductive Reader.Reads : Reader → List TypeToken → Prop where
  | mk {os : List Open} {position : Position} {before ts : List TypeToken} :
      Pending os before → position.Reads ts → Reader.Reads ⟨os, position⟩ (before ++ ts)

theorem Position.Reads.derives {position : Position} (h : position.Reads ts)
    (ht : position.tree? = some tree) : Derives ts tree := by
  cases h with
  | start => cases ht
  | afterName hn =>
    cases ht
    exact .name hn
  | afterArguments hd =>
    cases ht
    exact hd
  | complete hd =>
    cases ht
    exact hd

theorem reads_initial : Reader.initial.Reads [] := .mk .nil .start

/-- An argument ends with a comma or with the bracket behind the last one. -/
theorem reads_of_resume (ho : Pending os before) (hd : Derives ts tree)
    (h : resume os tree token = .ok next) : next.Reads (before ++ ts ++ [token]) := by
  unfold resume at h
  split at h
  · cases h
    obtain _ | @⟨os, before, name, parts, hp, hn, hds⟩ := ho
    have hmore : ∀ p ∈ parts ++ [(ts, tree)], Derives p.1 p.2 :=
      List.forall_mem_append.mpr ⟨hds, by simpa using hd⟩
    have hr := Reader.Reads.mk (.cons hp hn hmore) .start
    simpa using hr
  · cases h
    obtain _ | @⟨os, before, name, parts, hp, hn, hds⟩ := ho
    have hmore : ∀ p ∈ parts ++ [(ts, tree)], Derives p.1 p.2 :=
      List.forall_mem_append.mpr ⟨hds, by simpa using hd⟩
    have happlied := Derives.applied hn (by simp) hmore
    rw [List.map_append, List.map_append, List.map_singleton, List.map_singleton,
      listed_concat] at happlied
    have hr := Reader.Reads.mk hp (.afterArguments happlied)
    simpa using hr
  · cases h
  · cases h

/-- A step puts its token behind what is read. -/
theorem Reader.Reads.step (hr : r.Reads ts) (h : r.step token = .ok next) :
    next.Reads (ts ++ [token]) := by
  obtain @⟨os, position, before, ts, ho, hp⟩ := hr
  unfold Reader.step at h
  dsimp only at h
  split at h
  · cases hp
    cases hn : token.isName with
    | true =>
      rw [hn] at h
      cases h
      rw [List.append_nil]
      exact .mk ho (.afterName hn)
    | false =>
      rw [hn] at h
      cases h
  · cases h
    obtain _ | hn := hp
    have hr := Reader.Reads.mk (@Pending.cons _ _ _ [] ho hn (List.forall_mem_nil _)) .start
    simpa using hr
  · cases h
    rw [List.append_assoc]
    exact .mk ho (.complete (.marked (hp.derives rfl)))
  · exact reads_of_resume ho (hp.derives rfl) h
  · cases h
    rw [List.append_assoc]
    exact .mk ho (.complete (.marked (hp.derives rfl)))
  · exact reads_of_resume ho (hp.derives rfl) h
  · exact reads_of_resume ho (hp.derives rfl) h

theorem Reader.Reads.finish (hr : r.Reads ts) (h : r.finish = .ok tree) : Derives ts tree := by
  obtain @⟨os, position, before, ts, ho, hp⟩ := hr
  unfold Reader.finish at h
  cases ht : position.tree? with
  | none =>
    simp only [ht] at h
    cases h
  | some t =>
    cases ho with
    | nil =>
      simp only [ht] at h
      cases h
      exact hp.derives ht
    | cons =>
      simp only [ht] at h
      cases h

theorem Reader.Reads.run {rest : List TypeToken} (hr : r.Reads ts)
    (h : TypeTree.run r rest = .ok tree) : Derives (ts ++ rest) tree := by
  induction rest generalizing r ts with
  | nil =>
    rw [List.append_nil]
    exact hr.finish h
  | cons token rest ih =>
    unfold TypeTree.run at h
    cases hs : r.step token with
    | error e =>
      rw [hs] at h
      cases h
    | ok next =>
      rw [hs] at h
      rw [List.append_cons]
      exact ih (hr.step hs) h

theorem ofTokens_eq_ok : ofTokens ts = .ok tree ↔ Derives ts tree :=
  ⟨fun h => reads_initial.run h, Derives.ofTokens⟩

/-- Tokens have one derivation at most. -/
theorem Derives.unique (h : Derives ts tree) (ho : Derives ts other) : other = tree := by
  have he := ho.ofTokens.symm.trans h.ofTokens
  cases he
  rfl

theorem Derives.ne_nil (h : Derives ts tree) : ts ≠ [] := by
  cases h <;> simp

theorem ofText_eq_ok {text : String} :
    ofText text = .ok tree ↔ Derives (TypeToken.scan text.toList) tree := by
  unfold ofText
  by_cases hb : Text.trim text = ""
  · rw [if_pos hb, TypeToken.scan_of_trim hb]
    exact iff_of_false nofun fun h => h.ne_nil rfl
  · rw [if_neg hb]
    exact ofTokens_eq_ok

theorem Derives.nullable_iff (h : Derives ts tree) :
    tree.nullable = true ↔ ts.getLast? = some (.mark '?') := by
  cases h with
  | name hn =>
    refine iff_of_false (by simp [TypeTree.nullable]) ?_
    rw [List.getLast?_singleton, Option.some.injEq]
    rintro rfl
    revert hn
    decide +kernel
  | applied =>
    rw [List.getLast?_append, List.getLast?_singleton]
    exact iff_of_false (by simp [TypeTree.nullable]) (by simp)
  | marked => simp [TypeTree.nullable]

mutual

/-- The arguments of the reference are those of the tree, in their order and at every depth, and
each is nullable just where a question mark is behind it. -/
def Follows : TypeTree → TypeRef → Prop
  | .node _ arguments _, r => AllFollow arguments r.arguments

def AllFollow : List TypeTree → List TypeRef → Prop
  | [], [] => True
  | t :: ts, r :: rs => r.nullable = t.nullable ∧ t.Follows r ∧ AllFollow ts rs
  | _, _ => False

end

end TypeTree

variable {registry : Registry} {package name : String} {arguments : List TypeRef}

inductive StandardRef (name : String) : List TypeRef → TypeRef → Prop where
  | scalar {r : TypeRef} : scalarRef? (Text.lastSegment name) = some r → StandardRef name [] r
  | collection {element : TypeRef} : StandardRef name [element] (.collection element)
  | map {key value : TypeRef} : StandardRef name [key, value] (.map key value)
  | nominal {arguments : List TypeRef} :
      StandardRef name arguments
        (.nominal ("kotlin.collections." ++ Text.lastSegment name) arguments)

theorem standardRef_of_eq_some {r : TypeRef} (h : standardRef? name arguments = some r) :
    StandardRef name arguments r := by
  unfold standardRef? at h
  dsimp only at h
  cases hs : (if isStandard name && arguments.isEmpty then scalarRef? (Text.lastSegment name)
      else none) with
  | some s =>
    rw [hs] at h
    cases h
    cases he : isStandard name && arguments.isEmpty with
    | true =>
      rw [he, if_pos rfl] at hs
      rw [List.isEmpty_iff.mp ((Bool.and_eq_true _ _).mp he).2]
      exact .scalar hs
    | false =>
      rw [he] at hs
      cases hs
  | none =>
    rw [hs] at h
    cases hl : isListName name with
    | true =>
      rw [hl] at h
      rcases arguments with _ | ⟨element, _ | _⟩ <;> cases h
      · exact .nominal
      · exact .collection
      · exact .nominal
    | false =>
      cases hm : isMapName name with
      | true =>
        rw [hl, hm] at h
        rcases arguments with _ | ⟨key, _ | ⟨value, _ | _⟩⟩ <;> cases h
        · exact .nominal
        · exact .nominal
        · exact .map
        · exact .nominal
      | false =>
        rw [hl, hm] at h
        cases h

theorem arguments_of_standardRef? {r : TypeRef} (h : standardRef? name arguments = some r) :
    r.arguments = arguments := by
  cases standardRef_of_eq_some h with
  | scalar hs =>
    obtain ⟨kind, _, _, _, rfl⟩ := TypeRef.scalarRef?_eq_some hs
    rfl
  | collection => rfl
  | map => rfl
  | nominal => rfl

@[simp] theorem arguments_resolveName :
    (resolveName registry package name arguments).arguments = arguments := by
  unfold resolveName
  cases h : standardRef? name arguments with
  | some r => exact arguments_of_standardRef? h
  | none =>
    rw [Option.getD_none, domainRef]
    split <;> rfl

namespace TypeTree

mutual

theorem follows_resolve : ∀ t : TypeTree, t.Follows (t.resolve registry package)
  | .node name arguments nullable => by
    rw [Follows, TypeTree.resolve, arguments_resolveName]
    exact allFollow_resolve arguments

theorem allFollow_resolve : ∀ ts : List TypeTree,
    AllFollow ts (resolveArguments registry package ts)
  | [] => by
    rw [resolveArguments, AllFollow]
    trivial
  | t :: ts => by
    have ht := follows_resolve t
    obtain ⟨name, arguments, nullable⟩ := t
    rw [Follows] at ht
    rw [resolveArguments, AllFollow, Follows]
    exact ⟨rfl, ht, allFollow_resolve ts⟩

end

end TypeTree

theorem readTypeText_eq_ok {text : String} {x : TypeRef × Bool} :
    readTypeText registry package text = .ok x ↔
      ∃ tree, TypeTree.Derives (TypeToken.scan text.toList) tree ∧
        (tree.resolve registry package, tree.nullable) = x := by
  unfold readTypeText readType
  rw [mapError_eq_ok, bind_eq_ok]
  exact exists_congr fun tree => and_congr TypeTree.ofText_eq_ok pure_eq_ok

theorem isExplained_of_readTypeText {text : String} {e : DocumentError}
    (h : readTypeText registry package text = .error e) : e.isExplained = true := by
  obtain ⟨cause, _, rfl⟩ := mapError_eq_error.mp h
  rfl

/-- A type text is accepted exactly where the grammar derives its tokens, and refused with a fault
of the text elsewhere. What is read then follows the one derivation that there is, with every null
mark in its place, and depends on nothing but the tokens. -/
theorem readTypeText_accepts_grammar (registry : Registry) (package text : String) :
    ((∃ x, readTypeText registry package text = .ok x) ↔
      ∃ tree, TypeTree.Derives (TypeToken.scan text.toList) tree) ∧
    (∀ e, readTypeText registry package text = .error e → e.isExplained = true) ∧
    (∀ r nullable, readTypeText registry package text = .ok (r, nullable) →
      ∃ tree, TypeTree.Derives (TypeToken.scan text.toList) tree ∧
        (∀ other, TypeTree.Derives (TypeToken.scan text.toList) other → other = tree) ∧
        r = tree.resolve registry package ∧ tree.Follows r ∧ nullable = tree.nullable ∧
        (nullable = true ↔ (TypeToken.scan text.toList).getLast? = some (.mark '?'))) ∧
    ∀ other : String, TypeToken.scan other.toList = TypeToken.scan text.toList →
      (readTypeText registry package other).toOption =
        (readTypeText registry package text).toOption := by
  refine ⟨?_, fun e => isExplained_of_readTypeText, ?_, ?_⟩
  · constructor
    · rintro ⟨x, h⟩
      obtain ⟨tree, hd, _⟩ := readTypeText_eq_ok.mp h
      exact ⟨tree, hd⟩
    · rintro ⟨tree, hd⟩
      exact ⟨_, readTypeText_eq_ok.mpr ⟨tree, hd, rfl⟩⟩
  · intro r nullable h
    obtain ⟨tree, hd, he⟩ := readTypeText_eq_ok.mp h
    cases he
    exact ⟨tree, hd, fun other => hd.unique, rfl, TypeTree.follows_resolve tree, rfl,
      hd.nullable_iff⟩
  · intro other hs
    refine Option.ext fun x => ?_
    rw [toOption_eq_some, toOption_eq_some, readTypeText_eq_ok, readTypeText_eq_ok, hs]

end FluentKotlin
