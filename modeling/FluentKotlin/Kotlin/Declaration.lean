import FluentKotlin.Kotlin.Code.Basic

/-! # Declarations

What a generated file declares: type aliases, types with their properties, functions and nested
types, and functions of its own. Members keep the order in which they were added.
-/

namespace FluentKotlin

inductive Modifier where
  | isPublic
  | isProtected
  | isInternal
  | isPrivate
  | override
  | vararg
  deriving DecidableEq, Repr, Inhabited

namespace Modifier

def word : Modifier → String
  | isPublic => "public"
  | isProtected => "protected"
  | isInternal => "internal"
  | isPrivate => "private"
  | override => "override"
  | vararg => "vararg"

def all : List Modifier := [isPublic, isProtected, isInternal, isPrivate, override, vararg]

def ofWord (s : String) : Except NameError Modifier :=
  match all.find? (·.word == s) with
  | some m => .ok m
  | none => .error (.unknownModifier s)

def isAccess : Modifier → Bool
  | isPublic | isProtected | isInternal | isPrivate => true
  | override | vararg => false

theorem ofWord_word (m : Modifier) : ofWord m.word = .ok m := by
  cases m <;> rfl

end Modifier

structure TypeVariable where
  name : String
  nullable : Bool := false
  deriving DecidableEq, Repr, Inhabited

namespace TypeVariable

def asType (v : TypeVariable) : TypeName := .typeVariable v.name v.nullable

end TypeVariable

structure ParameterDecl where
  name : String
  type : TypeName
  default : Option String := none
  modifiers : List Modifier := []
  deriving Inhabited

def ParameterDecl.isVararg (p : ParameterDecl) : Bool := p.modifiers.contains .vararg

structure PropertyDecl where
  name : String
  type : TypeName
  isMutable : Bool := true
  modifiers : List Modifier := []
  initializer : Option CodeBlock := none
  deriving Inhabited

structure FunctionDecl where
  name : String
  parameters : List ParameterDecl := []
  returns : Option TypeName := none
  overridden : Bool := false
  doc : Option String := none
  annotations : List ClassName := []
  statements : List CodeBlock := []
  modifiers : List Modifier := []
  deriving Inhabited

structure TypeDecl where
  name : String
  superType : Option TypeName := none
  typeVariables : List TypeVariable := []
  annotations : List ClassName := []
  properties : List PropertyDecl := []
  functions : List FunctionDecl := []
  nested : List TypeDecl := []
  modifiers : List Modifier := []
  deriving Inhabited

structure AliasDecl where
  name : String
  target : TypeName
  typeVariables : List TypeVariable := []
  deriving Inhabited

/-- A simple name that a file takes from a package. -/
structure Import where
  package : String
  name : String
  deriving DecidableEq, Repr, Inhabited

structure SourceFile where
  className : ClassName
  imports : List Import := []
  aliases : List AliasDecl := []
  types : List TypeDecl := []
  functions : List FunctionDecl := []
  deriving Inhabited

def SourceFile.package (f : SourceFile) : String := f.className.package

def SourceFile.qualifiedName (f : SourceFile) : String := f.className.canonicalName

def FunctionDecl.parameter? (f : FunctionDecl) (name : String) : Option ParameterDecl :=
  f.parameters.find? (·.name == name)

namespace TypeDecl

def property? (t : TypeDecl) (name : String) : Option PropertyDecl :=
  t.properties.find? (·.name == name)

def function? (t : TypeDecl) (name : String) : Option FunctionDecl :=
  t.functions.find? (·.name == name)

def nested? (t : TypeDecl) (name : String) : Option TypeDecl :=
  t.nested.find? (·.name == name)

/-- What a type inherits from the types inside of it holds of every type. -/
theorem nested_induction {P : TypeDecl → Prop}
    (step : ∀ t : TypeDecl, (∀ u ∈ t.nested, P u) → P t) (t : TypeDecl) : P t := by
  have hlt : ∀ t u : TypeDecl, u ∈ t.nested → sizeOf u < sizeOf t := by
    intro t u hu
    have hl := List.sizeOf_lt_of_mem hu
    cases t
    simp only [TypeDecl.mk.sizeOf_spec] at *
    omega
  exact sizeOfWFRel.wf.induction t fun t ih => step t fun u hu => ih u (hlt t u hu)

end TypeDecl

end FluentKotlin
