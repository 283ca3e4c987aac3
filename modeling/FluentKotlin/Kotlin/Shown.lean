import FluentKotlin.Kotlin.Code.Basic

/-! # Types and code as records

How types and code blocks are shown in messages: by the name of the record and all its fields.
-/

namespace FluentKotlin

open Text (record tuple)

def ClassName.shown (c : ClassName) : String :=
  record "ClassName" [("package", Text.quoted c.package),
    ("simple_names", tuple (c.simpleNames.map Text.quoted)), ("nullable", writtenBool c.nullable)]

namespace TypeName

mutual

def shown : TypeName → String
  | named c => c.shown
  | applied raw arguments nullable =>
    record "ParameterizedTypeName" [("raw_type", raw.shown),
      ("type_arguments", tuple (shownAll arguments)), ("nullable", writtenBool nullable)]
  | typeVariable name nullable =>
    record "TypeVariableName" [("name", Text.quoted name), ("nullable", writtenBool nullable)]
  | lambda receiver parameters returns nullable =>
    record "LambdaTypeName" [("receiver", shownOption receiver),
      ("parameters", tuple (shownAll parameters)), ("return_type", shownOption returns),
      ("nullable", writtenBool nullable)]

def shownAll : List TypeName → List String
  | [] => []
  | t :: ts => shown t :: shownAll ts

def shownOption : Option TypeName → String
  | none => nothing
  | some t => shown t

end

end TypeName

mutual

def CodeBlock.shown : CodeBlock → String
  | ⟨format, arguments⟩ =>
    record "CodeBlock" [("format", Text.quoted format), ("args", tuple (shownArguments arguments))]

def shownArguments : List Argument → List String
  | [] => []
  | a :: as => a.shown :: shownArguments as

def Argument.shown : Argument → String
  | .scalar value => value.quoted
  | .type t => t.shown
  | .code block => block.shown
  | .arguments blocks => record "ArgumentList" [("arguments", tuple (shownBlocks blocks))]
  | .declaration _ text => text

def shownBlocks : List CodeBlock → List String
  | [] => []
  | b :: bs => b.shown :: shownBlocks bs

end

/-- The argument as text: a scalar and a type as they are written, all else as it is shown. -/
def Argument.written : Argument → String
  | .scalar value => value.written
  | .type t => t.written
  | a => a.shown

end FluentKotlin
