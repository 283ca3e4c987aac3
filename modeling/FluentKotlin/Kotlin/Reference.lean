import FluentKotlin.Kotlin.Declaration

/-! # Referenced classes

The classes that a declaration mentions in its types, annotations and code, in the order of its
text and with repetitions.
-/

namespace FluentKotlin

def optionReferences : Option TypeName → List ClassName
  | none => []
  | some t => t.references

def initializerReferences : Option CodeBlock → List ClassName
  | none => []
  | some block => block.references

def ParameterDecl.references (p : ParameterDecl) : List ClassName := p.type.references

def PropertyDecl.references (p : PropertyDecl) : List ClassName :=
  p.type.references ++ initializerReferences p.initializer

def FunctionDecl.references (f : FunctionDecl) : List ClassName :=
  f.parameters.flatMap ParameterDecl.references ++ optionReferences f.returns ++ f.annotations
    ++ f.statements.flatMap CodeBlock.references

mutual

def TypeDecl.references : TypeDecl → List ClassName
  | ⟨_, superType, _, annotations, properties, functions, nested, _⟩ =>
    optionReferences superType ++ annotations ++ properties.flatMap PropertyDecl.references
      ++ functions.flatMap FunctionDecl.references ++ nestedReferences nested

def nestedReferences : List TypeDecl → List ClassName
  | [] => []
  | t :: ts => t.references ++ nestedReferences ts

end

def AliasDecl.references (a : AliasDecl) : List ClassName := a.target.references

theorem nestedReferences_eq_flatMap (ts : List TypeDecl) :
    nestedReferences ts = ts.flatMap TypeDecl.references := by
  induction ts with
  | nil => simp [nestedReferences]
  | cons t ts ih => simp [nestedReferences, ih]

end FluentKotlin
