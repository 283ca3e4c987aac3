import FluentKotlin.Kotlin.Declaration
import FluentKotlin.Kotlin.Shown

/-! # Declarations as records

How declarations are shown in messages and as literals: by the name of the record and all its
fields.
-/

namespace FluentKotlin

open Text (record tuple)

def shownOptionText : Option String → String
  | none => nothing
  | some s => Text.quoted s

def shownBlock : Option CodeBlock → String
  | none => nothing
  | some block => block.shown

def Modifier.shown (m : Modifier) : String :=
  "<Modifier." ++ Text.upper m.word ++ ": " ++ Text.quoted m.word ++ ">"

def shownModifiers (ms : List Modifier) : String := tuple (ms.map Modifier.shown)

def TypeVariable.shown (v : TypeVariable) : String := v.asType.shown

def ParameterDecl.shown (p : ParameterDecl) : String :=
  record "ParameterSpec" [("name", Text.quoted p.name), ("type", p.type.shown),
    ("default", shownOptionText p.default), ("modifiers", shownModifiers p.modifiers)]

def PropertyDecl.shown (p : PropertyDecl) : String :=
  record "PropertySpec" [("name", Text.quoted p.name), ("type", p.type.shown),
    ("mutable", writtenBool p.isMutable), ("modifiers", shownModifiers p.modifiers),
    ("initializer", shownBlock p.initializer)]

def FunctionDecl.shown (f : FunctionDecl) : String :=
  record "FunctionSpec" [("name", Text.quoted f.name),
    ("parameters", tuple (f.parameters.map ParameterDecl.shown)),
    ("return_type", TypeName.shownOption f.returns), ("overridden", writtenBool f.overridden),
    ("doc", shownOptionText f.doc), ("annotations", tuple (f.annotations.map ClassName.shown)),
    ("statements", tuple (f.statements.map CodeBlock.shown)),
    ("modifiers", shownModifiers f.modifiers)]

mutual

def TypeDecl.shown : TypeDecl → String
  | ⟨name, superType, typeVariables, annotations, properties, functions, nested, modifiers⟩ =>
    record "TypeSpec" [("name", Text.quoted name), ("super_type", TypeName.shownOption superType),
      ("type_variables", tuple (typeVariables.map TypeVariable.shown)),
      ("annotations", tuple (annotations.map ClassName.shown)),
      ("properties", tuple (properties.map PropertyDecl.shown)),
      ("functions", tuple (functions.map FunctionDecl.shown)),
      ("nested_types", tuple (shownTypes nested)), ("modifiers", shownModifiers modifiers)]

def shownTypes : List TypeDecl → List String
  | [] => []
  | t :: ts => t.shown :: shownTypes ts

end

def AliasDecl.shown (a : AliasDecl) : String :=
  record "TypeAliasSpec" [("name", Text.quoted a.name), ("aliased_type", a.target.shown),
    ("type_variables", tuple (a.typeVariables.map TypeVariable.shown))]

def Import.shown (i : Import) : String := tuple [Text.quoted i.package, Text.quoted i.name]

def SourceFile.shown (f : SourceFile) : String :=
  record "FileSpec" [("class_name", f.className.shown),
    ("imports", tuple (f.imports.map Import.shown)),
    ("type_aliases", tuple (f.aliases.map AliasDecl.shown)),
    ("types", tuple (f.types.map TypeDecl.shown)),
    ("functions", tuple (f.functions.map FunctionDecl.shown))]

/-- A parameter as the argument of a code block. -/
def ParameterDecl.argument (p : ParameterDecl) : Argument := .declaration (some p.name) p.shown

end FluentKotlin
