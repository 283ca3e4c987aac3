import FluentKotlin.Proofs.Kotlin.Drafts
import FluentKotlin.Schema.Accessor

/-! # Accessors as they are made

Every accessor has the name of its property, the documentation of its form and one parameter. Its
statements are those that its kind asks for.
-/

namespace FluentKotlin

def Form.doc? : Form → Option String
  | .group _ _ doc => doc
  | .mapGroup _ _ _ doc => doc
  | .builder _ _ doc => doc
  | .boolean | .plain _ | .map _ _ | .collection _ | .transform _ _ _ => none

namespace Schema

variable {name : String} {doc : Option String} {parameter : ParameterDecl}
  {statements : List CodeBlock} {f : FunctionDecl} {s : Schema}

theorem exists_accessorOf (hn : name ≠ "") (parameter : ParameterDecl)
    (statements : List CodeBlock) : ∃ f, accessorOf name none parameter statements = .ok f :=
  ⟨_, FunctionDraft.build_of_name rfl hn⟩

theorem name_of_accessorOf (h : accessorOf name doc parameter statements = .ok f) :
    f.name = name := by
  obtain ⟨_, hn, _, rfl⟩ := FunctionDraft.build_eq_ok h
  exact (Option.some.inj hn).symm

theorem parameters_of_accessorOf (h : accessorOf name doc parameter statements = .ok f) :
    f.parameters = [parameter] := by
  obtain ⟨_, _, _, rfl⟩ := FunctionDraft.build_eq_ok h
  rfl

theorem statements_of_accessorOf (h : accessorOf name doc parameter statements = .ok f) :
    f.statements = statements := by
  obtain ⟨_, _, _, rfl⟩ := FunctionDraft.build_eq_ok h
  rfl

theorem doc_of_accessorOf (h : accessorOf name doc parameter statements = .ok f) : f.doc = doc := by
  obtain ⟨_, _, _, rfl⟩ := FunctionDraft.build_eq_ok h
  rfl

theorem exists_accessorOf_of_accessor (h : s.accessor = .ok f) :
    ∃ parameter statements, accessorOf s.name s.form.doc? parameter statements = .ok f := by
  unfold accessor at h
  cases hf : s.form
  all_goals
    rw [hf] at h
    obtain ⟨parameter, _, h⟩ := bind_eq_ok.mp h
  case transform =>
    obtain ⟨statement, _, h⟩ := bind_eq_ok.mp h
    exact ⟨_, _, h⟩
  all_goals exact ⟨_, _, h⟩

theorem name_of_accessor (h : s.accessor = .ok f) : f.name = s.name := by
  obtain ⟨_, _, h⟩ := exists_accessorOf_of_accessor h
  exact name_of_accessorOf h

theorem exists_parameter_of_accessor (h : s.accessor = .ok f) :
    ∃ parameter, f.parameters = [parameter] := by
  obtain ⟨parameter, _, h⟩ := exists_accessorOf_of_accessor h
  exact ⟨parameter, parameters_of_accessorOf h⟩

theorem doc_of_accessor (h : s.accessor = .ok f) : f.doc = s.form.doc? := by
  obtain ⟨_, _, h⟩ := exists_accessorOf_of_accessor h
  exact doc_of_accessorOf h

end Schema

end FluentKotlin
