import FluentKotlin.Schema.Basic
import FluentKotlin.Text.Code

/-! # Accessors

The function of a builder that sets one property. It takes a value, or a block that is applied to
a builder or to a container of builders.
-/

namespace FluentKotlin

/-- How often a template mentions its input. Besides that it may only have doubled percent signs,
and the error is what follows the first other one. -/
def templateInputs : List Char → Except String Nat
  | [] => .ok 0
  | [c] => if c = '%' then .error "" else .ok 0
  | c :: d :: cs =>
    if c = '%' then
      if d = 'N' then (templateInputs cs).map (· + 1)
      else if d = '%' then templateInputs cs
      else .error (String.ofList (Text.firstCode (d :: cs)))
    else templateInputs (d :: cs)

namespace Schema

def valueParameter (t : TypeName) : Except DeclError ParameterDecl :=
  ParameterDraft.build { name := some "value", type := some t }

def blockParameter (receiver : TypeName) : Except DeclError ParameterDecl :=
  ParameterDraft.build { name := some "block", type := some (.scopeOf receiver) }

/-- A default that is not the word for false switches the property on. -/
def switchesOn : Option DefaultHint → Bool
  | none => true
  | some d => Text.lower (Text.trim d.literal) != "false"

def switchParameter (default : Option DefaultHint) : Except DeclError ParameterDecl :=
  ParameterDraft.build {
    name := some "on"
    type := some .boolean
    default := some (if switchesOn default then "true" else "false") }

def accessorOf (name : String) (doc : Option String) (parameter : ParameterDecl)
    (statements : List CodeBlock) : Except DeclError FunctionDecl :=
  FunctionDraft.build { name := some name, parameters := [parameter], doc, statements }

/-- The statement that stores a parameter. -/
def assignment (name : String) (parameter : ParameterDecl) : CodeBlock :=
  ⟨"this.%N = %N", [.text name, parameter.argument]⟩

def valueAccessor (name : String) (t : TypeName) : Except DeclError FunctionDecl := do
  let parameter ← valueParameter t
  accessorOf name none parameter [assignment name parameter]

/-- The accessor that applies its block to a container and stores what was collected. -/
def containerAccessor (name : String) (container : TypeName) (doc : Option String) :
    Except DeclError FunctionDecl := do
  let parameter ← blockParameter container
  accessorOf name doc parameter
    [⟨"this.%N = %T().apply(block).items()", [.text name, .type container]⟩]

def builderAccessor (name : String) (builder : ClassName) (doc : Option String) :
    Except DeclError FunctionDecl := do
  let parameter ← blockParameter (.named builder)
  accessorOf name doc parameter
    [⟨"val builder = %T()", [.type (.named builder)]⟩,
      ⟨"builder.block()", []⟩,
      ⟨"this.%N = builder.build()", [.text name]⟩]

def templateStatement (name template : String) (parameter : ParameterDecl) (inputs : Nat) :
    CodeBlock :=
  ⟨"this.%N = " ++ template, .text name :: List.replicate inputs parameter.argument⟩

def transformStatement (name : String) (t : TypeName) (template : Option String)
    (parameter : ParameterDecl) : Except DeclError CodeBlock :=
  match textOr template "" with
  | "" => .ok ⟨"this.%N = %T(%N)", [.text name, .type t.nonNull, parameter.argument]⟩
  | template =>
    match templateInputs template.toList with
    | .ok inputs => .ok (templateStatement name template parameter inputs)
    | .error found => .error (.badTemplate name template found)

def transformAccessor (name : String) (t input : TypeName) (template : Option String) :
    Except DeclError FunctionDecl := do
  let parameter ← valueParameter input
  let statement ← transformStatement name t template parameter
  accessorOf name none parameter [statement]

def accessor (s : Schema) : Except DeclError FunctionDecl :=
  match s.form with
  | .boolean => do
    let parameter ← switchParameter s.default
    accessorOf s.name none parameter [assignment s.name parameter]
  | .plain t => valueAccessor s.name t
  | .map key value => valueAccessor s.name (.mapOf key value)
  | .collection element => valueAccessor s.name (.listOf element)
  | .group _ elementBuilder doc => containerAccessor s.name (.named (groupClass elementBuilder)) doc
  | .mapGroup key _ valueBuilder doc =>
    containerAccessor s.name (mapGroupType key valueBuilder) doc
  | .builder _ nestedBuilder doc => builderAccessor s.name nestedBuilder doc
  | .transform t input template => transformAccessor s.name t input template

end Schema

end FluentKotlin
