import FluentKotlin.Kotlin.Code.Format
import FluentKotlin.Kotlin.Declaration
import FluentKotlin.Path
import FluentKotlin.Text.Lines

/-! # Layout of files

How declarations are laid out as source text, given the text of the classes in them. Access
modifiers come first, the body of a function and the members of a type are indented, members of a
file and of a type stand after an empty line, and a file ends with exactly one line feed. In the
text of a declaration every class has its local name.
-/

namespace FluentKotlin

def generatedHeader : String := "// Code generated by dslgen. DO NOT EDIT."

def orderedModifiers (ms : List Modifier) : List Modifier :=
  ms.filter (·.isAccess) ++ ms.filter (!·.isAccess)

def modifierText (ms : List Modifier) : String :=
  String.join ((orderedModifiers ms).map (·.word ++ " "))

def defaultText : Option String → String
  | none => ""
  | some text => " = " ++ text

section

variable (classText : ClassName → String)

def ParameterDecl.textWith (p : ParameterDecl) : String :=
  modifierText p.modifiers ++ p.name ++ ": " ++ p.type.textWith classText ++ defaultText p.default

def initializerTextWith : Option CodeBlock → Except FormatError String
  | none => .ok ""
  | some block => (block.formattedWith classText).map (" = " ++ ·)

def PropertyDecl.textWith (p : PropertyDecl) : Except FormatError String := do
  let value ← initializerTextWith classText p.initializer
  return modifierText p.modifiers ++ (if p.isMutable then "var" else "val") ++ " " ++ p.name
    ++ ": " ++ p.type.textWith classText ++ value

/-- A type after what leads to it, nothing where there is no type. -/
def typeTextAfter (lead : String) : Option TypeName → String
  | none => ""
  | some t => lead ++ t.textWith classText

def FunctionDecl.signatureWith (f : FunctionDecl) : String :=
  modifierText f.modifiers ++ "fun " ++ f.name ++ "("
    ++ String.intercalate ", " (f.parameters.map (·.textWith classText)) ++ ")"
    ++ typeTextAfter classText ": " f.returns

def typeVariableTextWith (vs : List TypeVariable) : String :=
  if vs.isEmpty then ""
  else "<" ++ String.intercalate ", " (vs.map (·.asType.textWith classText)) ++ ">"

def typeHeaderWith (name : String) (superType : Option TypeName)
    (typeVariables : List TypeVariable) (modifiers : List Modifier) : String :=
  modifierText modifiers ++ "class " ++ name ++ typeVariableTextWith classText typeVariables
    ++ typeTextAfter classText " : " superType

def AliasDecl.textWith (a : AliasDecl) : String :=
  "typealias " ++ a.name ++ typeVariableTextWith classText a.typeVariables ++ " = "
    ++ a.target.textWith classText

end

def line (s : String) : String := s ++ "\n"

def docLine (s : String) : String := line (if s = "" then " *" else " * " ++ s)

def docText : Option String → String
  | none => ""
  | some doc =>
    if doc = "" then ""
    else line "/**" ++ String.join ((Text.lines doc).map docLine) ++ line " */"

def annotationTextWith (classText : ClassName → String) (annotations : List ClassName) : String :=
  String.join (annotations.map fun c => line ("@" ++ classText c))

def statementTextsWith (classText : ClassName → String) :
    List CodeBlock → Except FormatError (List String)
  | [] => .ok []
  | b :: bs => do
    let text ← b.formattedWith classText
    let texts ← statementTextsWith classText bs
    return text :: texts

def bodyText (statements : List String) : String :=
  String.join (statements.map fun s => line (Text.indent s))

def propertyLine (s : String) : String := line (String.ofList Text.indentation ++ s)

/-- A member stands after an empty line. -/
def member (s : String) : String := line "" ++ line s

section

variable (classText : ClassName → String)

def FunctionDecl.textWith (f : FunctionDecl) : Except FormatError String := do
  let statements ← statementTextsWith classText f.statements
  return docText f.doc ++ annotationTextWith classText f.annotations
    ++ line (f.signatureWith classText ++ " \x7b") ++ bodyText statements ++ "\x7d"

def propertyTextsWith : List PropertyDecl → Except FormatError (List String)
  | [] => .ok []
  | p :: ps => do
    let text ← p.textWith classText
    let texts ← propertyTextsWith ps
    return text :: texts

def functionTextsWith : List FunctionDecl → Except FormatError (List String)
  | [] => .ok []
  | f :: fs => do
    let text ← f.textWith classText
    let texts ← functionTextsWith fs
    return text :: texts

mutual

def TypeDecl.textWith : TypeDecl → Except FormatError String
  | ⟨name, superType, typeVariables, annotations, properties, functions, nested, modifiers⟩ => do
    let properties ← propertyTextsWith classText properties
    let functions ← functionTextsWith classText functions
    let nested ← typeTextsWith nested
    return annotationTextWith classText annotations
      ++ line (typeHeaderWith classText name superType typeVariables modifiers ++ " \x7b")
      ++ String.join (properties.map propertyLine)
      ++ String.join ((functions ++ nested).map fun s => member (Text.indent s)) ++ "\x7d"

def typeTextsWith : List TypeDecl → Except FormatError (List String)
  | [] => .ok []
  | t :: ts => do
    let text ← t.textWith
    let texts ← typeTextsWith ts
    return text :: texts

end

end

def PropertyDecl.text (p : PropertyDecl) : Except FormatError String :=
  p.textWith ClassName.rendered

def ParameterDecl.text (p : ParameterDecl) : String := p.textWith ClassName.rendered

def FunctionDecl.signature (f : FunctionDecl) : String := f.signatureWith ClassName.rendered

def TypeDecl.header (t : TypeDecl) : String :=
  typeHeaderWith ClassName.rendered t.name t.superType t.typeVariables t.modifiers

def AliasDecl.text (a : AliasDecl) : String := a.textWith ClassName.rendered

def packageText (package : String) : String :=
  if package = "" then "" else member ("package " ++ package)

def importText (imports : List Import) : String :=
  if imports.isEmpty then ""
  else line "" ++ String.join (imports.map fun i => line ("import " ++ i.package ++ "." ++ i.name))

/-- The text with exactly one line feed at its end. -/
def endLine (s : String) : String :=
  String.ofList ((s.toList.reverse.dropWhile (· == '\n')).reverse ++ ['\n'])

namespace SourceFile

def textWith (classText : ClassName → String) (f : SourceFile) : Except FormatError String := do
  let types ← typeTextsWith classText f.types
  let functions ← functionTextsWith classText f.functions
  return endLine (line generatedHeader ++ packageText f.package ++ importText f.imports
    ++ String.join ((f.aliases.map (·.textWith classText) ++ types ++ functions).map member))

def text (f : SourceFile) : Except FormatError String := f.textWith ClassName.rendered

/-- The directories of a package, one for each of its segments. -/
def packagePath (package : String) : Path :=
  if package = "" then {} else .joinAll ((Text.segments '.' package).map Path.ofString)

def fileName (f : SourceFile) : String := f.className.simpleName ++ ".kt"

def outputPath (f : SourceFile) (destination : Path) : Path :=
  (destination.join (packagePath f.package)).join (.ofString f.fileName)

end SourceFile

end FluentKotlin
