import FluentKotlin.Proofs.Kotlin.Seam
import FluentKotlin.Proofs.Pointwise
import FluentKotlin.Proofs.Schema.Accessor

/-! # Templates of transforms

A template is code with places for the input of an accessor. The check of a template looks for
percent signs and counts the inputs, and formatting scans the same text again, as the end of a
longer format and for holes of every kind. Both cut a template that passes the check into the same
parts, so the statement of the accessor has the text that the template means. -/

namespace FluentKotlin

namespace Template

/-- What a template consists of. -/
inductive Part where
  | plain (c : Char) (ne : c ≠ '%')
  | input
  | percent
  deriving DecidableEq

namespace Part

def code : Part → List Char
  | plain c _ => [c]
  | input => ['%', 'N']
  | percent => ['%', '%']

/-- What the part becomes in the accessor, where the input is the parameter. -/
def meaning : Part → List Char
  | plain c _ => [c]
  | input => "value".toList
  | percent => ['%']

def piece : Part → Piece
  | plain c _ => .char c
  | input => .hole .name
  | percent => .char '%'

end Part

def spelled (ps : List Part) : List Char := ps.flatMap Part.code

def inputs (ps : List Part) : Nat := ps.count .input

def meaning (ps : List Part) : String := String.ofList (ps.flatMap Part.meaning)

def Valid (text : String) : Prop := ∃ ps, text.toList = spelled ps

/-- A percent sign is next that belongs to no part. -/
def Stray (cs : List Char) : Prop :=
  ∃ after, cs = '%' :: after ∧ after.head? ≠ some 'N' ∧ after.head? ≠ some '%'

variable {c : Char} {cs : List Char} {n : Nat}

@[simp] theorem spelled_nil : spelled [] = [] := rfl

@[simp] theorem spelled_cons (p : Part) (ps : List Part) :
    spelled (p :: ps) = p.code ++ spelled ps := rfl

@[simp] theorem inputs_nil : inputs [] = 0 := rfl

@[simp] theorem inputs_plain (h : c ≠ '%') (ps : List Part) :
    inputs (.plain c h :: ps) = inputs ps := by simp [inputs]

@[simp] theorem inputs_input (ps : List Part) : inputs (.input :: ps) = inputs ps + 1 := by
  simp [inputs]

@[simp] theorem inputs_percent (ps : List Part) : inputs (.percent :: ps) = inputs ps := by
  simp [inputs]

theorem templateInputs_cons_of_ne (h : c ≠ '%') (cs : List Char) :
    templateInputs (c :: cs) = templateInputs cs := by
  cases cs with
  | nil => simp [templateInputs, h]
  | cons d cs => rw [templateInputs, if_neg h]

theorem templateInputs_of_stray (h : Stray cs) : ∃ found, templateInputs cs = .error found := by
  obtain ⟨after, rfl, hn, hp⟩ := h
  cases after with
  | nil => exact ⟨_, rfl⟩
  | cons d ds =>
    have hd : d ≠ 'N' := fun he => hn (congrArg some he)
    have hd' : d ≠ '%' := fun he => hp (congrArg some he)
    exact ⟨_, by rw [templateInputs, if_pos rfl, if_neg hd, if_neg hd']⟩

theorem templateInputs_append (ps : List Part) (cs : List Char) :
    templateInputs (spelled ps ++ cs) = (templateInputs cs).map (· + inputs ps) := by
  induction ps with
  | nil => cases h : templateInputs cs <;> simp [h, Except.map]
  | cons p ps ih =>
    rw [spelled_cons, List.append_assoc]
    cases p with
    | plain c ne =>
      rw [Part.code, List.singleton_append, templateInputs_cons_of_ne ne, ih, inputs_plain]
    | input =>
      have hstep : templateInputs ('%' :: 'N' :: (spelled ps ++ cs)) =
          (templateInputs (spelled ps ++ cs)).map (· + 1) := by
        rw [templateInputs, if_pos rfl, if_pos rfl]
      rw [Part.code, List.cons_append, List.singleton_append, hstep, ih]
      cases templateInputs cs <;> simp [Except.map, Nat.add_assoc]
    | percent =>
      have hstep : templateInputs ('%' :: '%' :: (spelled ps ++ cs)) =
          templateInputs (spelled ps ++ cs) := by
        rw [templateInputs, if_pos rfl, if_neg (by decide), if_pos rfl]
      rw [Part.code, List.cons_append, List.singleton_append, hstep, ih, inputs_percent]

/-- A text consists of parts up to its end or to a stray percent sign. -/
theorem exists_spelled_append (cs : List Char) :
    ∃ ps rest, cs = spelled ps ++ rest ∧ (rest = [] ∨ Stray rest) := by
  fun_induction templateInputs cs with
  | case1 => exact ⟨[], [], rfl, Or.inl rfl⟩
  | case2 => exact ⟨[], _, rfl, Or.inr ⟨[], rfl, by simp, by simp⟩⟩
  | case3 c hc => exact ⟨[.plain c hc], [], rfl, Or.inl rfl⟩
  | case4 cs ih =>
    obtain ⟨ps, rest, rfl, hrest⟩ := ih
    exact ⟨.input :: ps, rest, rfl, hrest⟩
  | case5 cs _ ih =>
    obtain ⟨ps, rest, rfl, hrest⟩ := ih
    exact ⟨.percent :: ps, rest, rfl, hrest⟩
  | case6 d cs hn hp =>
    exact ⟨[], _, rfl, Or.inr ⟨d :: cs, rfl, by simpa using hn, by simpa using hp⟩⟩
  | case7 c d cs hc ih =>
    obtain ⟨ps, rest, he, hrest⟩ := ih
    exact ⟨.plain c hc :: ps, rest, congrArg (c :: ·) he, hrest⟩

theorem templateInputs_eq_ok :
    templateInputs cs = .ok n ↔ ∃ ps, cs = spelled ps ∧ inputs ps = n := by
  constructor
  · intro h
    obtain ⟨ps, rest, rfl, hrest⟩ := exists_spelled_append cs
    rw [templateInputs_append] at h
    obtain ⟨m, hm, rfl⟩ := map_eq_ok.mp h
    rcases hrest with rfl | hrest
    · cases hm
      exact ⟨ps, List.append_nil _, (Nat.zero_add _).symm⟩
    · obtain ⟨found, he⟩ := templateInputs_of_stray hrest
      cases hm.symm.trans he
  · rintro ⟨ps, rfl, rfl⟩
    have h := templateInputs_append ps []
    rw [List.append_nil] at h
    simpa [templateInputs, Except.map] using h

/-- Formatting reads the parts of a template as the check does. -/
theorem pieces_spelled (ps : List Part) : pieces (spelled ps) = ps.map Part.piece := by
  induction ps with
  | nil => rfl
  | cons p ps ih =>
    rw [spelled_cons, List.map_cons, ← ih]
    cases p with
    | plain c ne => exact pieces_cons_of_ne ne _
    | input => simp [Part.code, Part.piece, pieces, Hole.ofChar?]
    | percent => simp [Part.code, Part.piece, pieces, Hole.ofChar?]

theorem holes_spelled (ps : List Part) :
    holes (pieces (spelled ps)) = List.replicate (inputs ps) .name := by
  rw [pieces_spelled]
  induction ps with
  | nil => rfl
  | cons p ps ih => cases p <;> simp [Part.piece, ih, List.replicate_succ]

theorem fill_spelled (ps : List Part) :
    fill (pieces (spelled ps)) (List.replicate (inputs ps) "value") =
      ps.flatMap Part.meaning := by
  rw [pieces_spelled]
  induction ps with
  | nil => rfl
  | cons p ps ih =>
    cases p <;> simp [Part.piece, Part.meaning, List.replicate_succ, fill, ih]

theorem pieces_beginning : pieces "this.%N = ".toList =
    "this.".toList.map .char ++ .hole .name :: " = ".toList.map .char := by decide

theorem formatted_beginning (name : String) :
    (CodeBlock.mk "this.%N = " [.text name]).formatted = .ok ("this." ++ name ++ " = ") := by
  have ht : holeTextsWith ClassName.rendered "this.%N = " [.name] [.text name] = .ok [name] := rfl
  rw [CodeBlock.formatted_of_holeTexts pieces_beginning ht]
  refine congrArg Except.ok (String.toList_injective ?_)
  rw [String.toList_ofList, String.toList_append, String.toList_append]
  rfl

theorem formatted_spelled {template : String} {ps : List Part} {a : Argument}
    (ht : template.toList = spelled ps)
    (ha : a.textFor ClassName.rendered .name = .ok "value") :
    (CodeBlock.mk template (List.replicate (inputs ps) a)).formatted = .ok (meaning ps) := by
  refine formattedWith_eq_ok.mpr ⟨List.replicate (inputs ps) "value", ?_, ?_⟩
  · rw [ht, holes_spelled]
    refine holeTextsWith_eq_ok.mpr ⟨by simp, Or.inl (by simp), ?_⟩
    rw [List.zip_replicate']
    refine forall₂_replicate ?_ _
    exact ha
  · rw [ht, fill_spelled, meaning]

end Template

namespace Schema

open Template

variable {name template : String} {t input : TypeName} {ps : List Part}

theorem formatted_templateStatement {parameter : ParameterDecl} (hp : parameter.name = "value")
    (ht : template.toList = spelled ps) :
    (templateStatement name template parameter (inputs ps)).formatted =
      .ok ("this." ++ name ++ " = " ++ meaning ps) := by
  have ha : parameter.argument.textFor ClassName.rendered .name = .ok "value" :=
    congrArg Except.ok hp
  have hcount : [Argument.text name].length =
      (CodeBlock.mk "this.%N = " [.text name]).places.length := by
    rw [CodeBlock.places, pieces_beginning]
    rfl
  exact formattedWith_append (by decide) hcount (formatted_beginning name)
    (formatted_spelled ht ha)

def inputParameter (input : TypeName) : ParameterDecl := { name := "value", type := input }

theorem transformStatement_of_template (ht : template ≠ "") (parameter : ParameterDecl) :
    transformStatement name t (some template) parameter =
      ((templateInputs template.toList).map (templateStatement name template parameter)).mapError
        (.badTemplate name template) := by
  have htext : textOr (some template) "" = template := if_neg ht
  unfold transformStatement
  rw [htext]
  split
  · exact absurd rfl ht
  · cases templateInputs template.toList <;> rfl

theorem transformAccessor_of_spelled (ht : template ≠ "") (hp : template.toList = spelled ps) :
    transformAccessor name t input (some template) =
      accessorOf name none (inputParameter input)
        [templateStatement name template (inputParameter input) (inputs ps)] := by
  have hvalue : valueParameter input = .ok (inputParameter input) := rfl
  rw [transformAccessor, hvalue, ok_bind, transformStatement_of_template ht,
    templateInputs_eq_ok.mpr ⟨ps, hp, rfl⟩]
  rfl

theorem transformAccessor_of_not_valid (name : String) (t input : TypeName) (ht : template ≠ "")
    (hp : ¬ Valid template) :
    ∃ found, transformAccessor name t input (some template) =
      .error (.badTemplate name template found) := by
  have hvalue : valueParameter input = .ok (inputParameter input) := rfl
  rw [transformAccessor, hvalue, ok_bind, transformStatement_of_template ht]
  cases hi : templateInputs template.toList with
  | ok n =>
    obtain ⟨ps, hps, _⟩ := templateInputs_eq_ok.mp hi
    exact absurd ⟨ps, hps⟩ hp
  | error found => exact ⟨found, rfl⟩

/-- The accessor of a transform with a template is made where the template is valid and the
property has a name. Its statement is then the code that the template means. -/
theorem accessor_of_template {s : Schema} (hs : s.form = .transform t input (some template))
    (ht : template ≠ "") :
    ((∃ f, s.accessor = .ok f) ↔ s.name ≠ "" ∧ Valid template) ∧
      (¬ Valid template ↔
        ∃ found, s.accessor = .error (.badTemplate s.name template found)) ∧
      (s.name = "" ∧ Valid template ↔ s.accessor = .error (.missingName .function)) ∧
      ∀ f ps, s.accessor = .ok f → template.toList = spelled ps →
        ∃ b, f.statements = [b] ∧ b.formatted = .ok ("this." ++ s.name ++ " = " ++ meaning ps) := by
  have hs : s.accessor = transformAccessor s.name t input (some template) := by
    rw [accessor, hs]
  rw [hs, ← and_assoc, ← and_assoc]
  refine ⟨?_, fun f ps hf hps => ?_⟩
  · -- The template is checked before the name, so the name only counts for a valid one.
    by_cases hv : Valid template
    · obtain ⟨ps, hps⟩ := id hv
      rw [transformAccessor_of_spelled ht hps]
      by_cases hn : s.name = ""
      · have hmissing : ∀ parameter statements, accessorOf "" none parameter statements =
            .error (.missingName .function) := fun _ _ => rfl
        simp [hv, hn, hmissing]
      · obtain ⟨f, hf⟩ := exists_accessorOf hn (inputParameter input)
          [templateStatement s.name template (inputParameter input) (inputs ps)]
        simp [hv, hn, hf]
    · obtain ⟨found, he⟩ := transformAccessor_of_not_valid s.name t input ht hv
      simp [hv, he]
  · rw [transformAccessor_of_spelled ht hps] at hf
    exact ⟨_, statements_of_accessorOf hf, formatted_templateStatement rfl hps⟩

def templated (name template : String) : Schema where
  name := name
  nullable := false
  default := none
  form := .transform .string .string (some template)

/-- A letter after a doubled percent sign is no input. -/
theorem accessor_of_template_doubled :
    (templated "share" "%%N of %N").form = .transform .string .string (some "%%N of %N") ∧
      "%%N of %N" ≠ "" ∧ ∃ f b, (templated "share" "%%N of %N").accessor = .ok f ∧
        f.statements = [b] ∧ b.formatted = .ok "this.share = %N of value" := by
  let ps : List Part := [.percent, .plain 'N' (by decide), .plain ' ' (by decide),
    .plain 'o' (by decide), .plain 'f' (by decide), .plain ' ' (by decide), .input]
  have hps : "%%N of %N".toList = spelled ps := by decide
  have ht : "%%N of %N" ≠ "" := by decide
  obtain ⟨hok, _, _, htext⟩ :=
    accessor_of_template (rfl : (templated "share" "%%N of %N").form = _) ht
  obtain ⟨f, hf⟩ := hok.mpr ⟨by decide, ps, hps⟩
  obtain ⟨b, hb, hformatted⟩ := htext f ps hf hps
  exact ⟨rfl, ht, f, b, hf, hb, hformatted⟩

theorem accessor_of_template_unnamed :
    ¬ ((∃ f, (templated "" "f(%N)").accessor = .ok f) ↔ Valid "f(%N)") := by
  intro h
  obtain ⟨f, hf⟩ := h.mpr ⟨[.plain 'f' (by decide), .plain '(' (by decide), .input,
    .plain ')' (by decide)], by decide⟩
  cases hf

end Schema

end FluentKotlin
