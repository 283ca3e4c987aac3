import FluentKotlin.Kotlin.DeclarationShown
import FluentKotlin.Kotlin.Draft
import FluentKotlin.Kotlin.Layout

/-! # Work on many drafts

A bench holds drafts and finished declarations by name. A command works on one of them, and a
draft that is added to another is built first. Functions that are added to a type at once have to be
finished. A command that fails leaves the bench as it was.
-/

namespace FluentKotlin

inductive Declaration where
  | property (d : PropertyDecl)
  | parameter (d : ParameterDecl)
  | function (d : FunctionDecl)
  | type (d : TypeDecl)
  | typeAlias (d : AliasDecl)
  | file (d : SourceFile)
  deriving Inhabited

namespace Declaration

def name? : Declaration → Option String
  | property d => some d.name
  | parameter d => some d.name
  | function d => some d.name
  | type d => some d.name
  | typeAlias d => some d.name
  | file _ => none

def shown : Declaration → String
  | property d => d.shown
  | parameter d => d.shown
  | function d => d.shown
  | type d => d.shown
  | typeAlias d => d.shown
  | file d => d.shown

/-- The declaration as the argument of a code block. -/
def argument (d : Declaration) : Argument := .declaration d.name? d.shown

/-- The line that introduces the declaration, and the whole text of a file. -/
def text : Declaration → Except FormatError String
  | property d => d.text
  | parameter d => .ok d.text
  | function d => .ok d.signature
  | type d => .ok d.header
  | typeAlias d => .ok d.text
  | file d => d.text

end Declaration

inductive Draft where
  | property (d : PropertyDraft)
  | parameter (d : ParameterDraft)
  | function (d : FunctionDraft)
  | type (d : TypeDraft)
  | typeAlias (d : AliasDraft)
  | file (d : FileDraft)
  deriving Inhabited

/-- One step on a draft. -/
inductive Edit where
  | name (s : String)
  | modifier (m : Modifier)
  | type (t : Option TypeName) (nullable : Option Bool)
  | lambda (receiver : Option TypeName) (parameters : List TypeName) (returns : Option TypeName)
  | boolean
  | mutability (isMutable : Bool)
  | initializer (block : CodeBlock)
  | default (value : Value)
  | returns (t : Option TypeName)
  | overriding (on : Bool)
  | doc (text : Option String)
  | annotated (c : Option ClassName)
  | statement (block : CodeBlock)
  | superType (t : Option TypeName)
  | typeVariables (vs : List TypeVariable)
  | className (c : ClassName)
  | importing (condition : Bool) (i : Import)
  deriving Inhabited

inductive EditError where
  | broken (e : DeclError)
  /-- The step is none for this kind of draft. -/
  | unsuited
  deriving Inhabited

/-- The default of a parameter as text, none for null. -/
def defaultOfValue : Value → Option String
  | .scalar .null => none
  | .scalar (.bool b) => some (if b then "true" else "false")
  | v => some v.written

def retype (nullable : Option Bool) (t : Option TypeName) : Option TypeName :=
  match nullable with
  | some b => t.map (·.withNullable b)
  | none => t

namespace Draft

def empty : DraftKind → Draft
  | .property => property {}
  | .parameter => parameter {}
  | .function => function {}
  | .type => type {}
  | .typeAlias => typeAlias {}
  | .file => file {}

def kind : Draft → DraftKind
  | property _ => .property
  | parameter _ => .parameter
  | function _ => .function
  | type _ => .type
  | typeAlias _ => .typeAlias
  | file _ => .file

def head? : Draft → Option DraftHead
  | property d => some d.toDraftHead
  | parameter d => some d.toDraftHead
  | function d => some d.toDraftHead
  | type d => some d.toDraftHead
  | typeAlias d => some d.toDraftHead
  | file _ => none

def withHead (h : DraftHead) : Draft → Draft
  | property d => property { d with toDraftHead := h }
  | parameter d => parameter { d with toDraftHead := h }
  | function d => function { d with toDraftHead := h }
  | type d => type { d with toDraftHead := h }
  | typeAlias d => typeAlias { d with toDraftHead := h }
  | file d => file d

/-- Whether the drafts of this kind have a type. -/
def isTyped : Draft → Bool
  | property _ | parameter _ | typeAlias _ => true
  | function _ | type _ | file _ => false

def type? : Draft → Option TypeName
  | property d => d.type
  | parameter d => d.type
  | typeAlias d => d.type
  | function _ | type _ | file _ => none

def withType (t : Option TypeName) : Draft → Draft
  | property d => property { d with type := t }
  | parameter d => parameter { d with type := t }
  | typeAlias d => typeAlias { d with type := t }
  | d => d

def editHead (d : Draft) (f : DraftHead → Except DeclError DraftHead) :
    Except EditError Draft :=
  match d.head? with
  | none => .error .unsuited
  | some h =>
    match f h with
    | .ok h => .ok (d.withHead h)
    | .error e => .error (.broken e)

/-- Give a type, and a name to a draft that has none. -/
def giveType (d : Draft) (given : Option TypeName) (defaultName : Option String) :
    Except EditError Draft :=
  match d.head? with
  | none => .error .unsuited
  | some h =>
    if d.isTyped then
      match FluentKotlin.giveType d.kind h d.type? given with
      | .error e => .error (.broken e)
      | .ok t =>
        let named := match defaultName with
          | some name => d.withHead (h.withDefaultName name)
          | none => d
        .ok (named.withType t)
    else .error .unsuited

def edit (d : Draft) (e : Edit) : Except EditError Draft :=
  match e, d with
  | .name s, d => d.editHead fun h => .ok (h.withName s)
  | .modifier m, d => d.editHead (DraftHead.addModifier d.kind m)
  | .type t nullable, d => d.giveType (retype nullable t) none
  | .lambda receiver parameters returns, d =>
    d.giveType (some (.lambda receiver parameters returns false)) (some "block")
  | .boolean, d => d.giveType (some .boolean) (some "on")
  | .mutability isMutable, property d => .ok (property { d with isMutable })
  | .initializer block, property d => .ok (property { d with initializer := some block })
  | .default value, parameter d => .ok (parameter { d with default := defaultOfValue value })
  | .returns t, function d => .ok (function { d with returns := t })
  | .overriding on, function d => .ok (function { d with overridden := on })
  | .doc text, function d => .ok (function { d with doc := text })
  | .annotated c, function d =>
    .ok (function { d with annotations := d.annotations ++ c.toList })
  | .annotated c, type d => .ok (type { d with annotations := d.annotations ++ c.toList })
  | .statement block, function d =>
    .ok (function { d with statements := d.statements ++ [block] })
  | .superType t, type d => .ok (type { d with superType := t })
  | .typeVariables vs, type d => .ok (type { d with typeVariables := vs })
  | .typeVariables vs, typeAlias d => .ok (typeAlias { d with typeVariables := vs })
  | .className c, file d =>
    match d.className with
    | some first => .error (.broken (.fileNamed first))
    | none => .ok (file { d with className := some c })
  | .importing condition i, file d =>
    .ok (if condition then file { d with imports := d.imports ++ [i] } else file d)
  | _, _ => .error .unsuited

def build : Draft → Except DeclError Declaration
  | property d => d.build.map .property
  | parameter d => d.build.map .parameter
  | function d => d.build.map .function
  | type d => d.build.map .type
  | typeAlias d => d.build.map .typeAlias
  | file d => d.build.map .file

def add (d : Draft) (child : Declaration) : Except EditError Draft :=
  match d, child with
  | function d, .parameter p => .ok (function { d with parameters := d.parameters ++ [p] })
  | type d, .property p => .ok (type { d with properties := d.properties ++ [p] })
  | type d, .function f => .ok (type { d with functions := d.functions ++ [f] })
  | type d, .type t => .ok (type { d with nested := d.nested ++ [t] })
  | file d, .typeAlias a => .ok (file { d with aliases := d.aliases ++ [a] })
  | file d, .type t => .ok (file { d with types := d.types ++ [t] })
  | file d, .function f => .ok (file { d with functions := d.functions ++ [f] })
  | _, _ => .error .unsuited

/-- Add functions one after the other. -/
def addEach : Draft → List FunctionDecl → Except EditError Draft
  | d, [] => .ok d
  | d, f :: fs => do
    let d ← d.add (.function f)
    d.addEach fs

end Draft

inductive Item where
  | draft (d : Draft)
  | built (d : Declaration)
  deriving Inhabited

def Item.declaration : Item → Except DeclError Declaration
  | draft d => d.build
  | built d => .ok d

abbrev Bench := List (String × Item)

inductive Command where
  | new (kind : DraftKind)
  | build (target : String)
  | edit (e : Edit)
  | add (child : String)
  | addFunctions (children : List String)
  deriving Inhabited

inductive BenchError where
  | unknown (id : String)
  | edit (e : EditError)
  deriving Inhabited

namespace Bench

def item? (b : Bench) (id : String) : Option Item := b.lookup id

def put (b : Bench) (id : String) (i : Item) : Bench := (id, i) :: b

def find (b : Bench) (id : String) : Except BenchError Item :=
  match b.item? id with
  | some i => .ok i
  | none => .error (.unknown id)

def findDraft (b : Bench) (id : String) : Except BenchError Draft :=
  match b.item? id with
  | some (.draft d) => .ok d
  | some (.built _) => .error (.edit .unsuited)
  | none => .error (.unknown id)

/-- Only a type takes functions all at once. -/
def findType (b : Bench) (id : String) : Except BenchError TypeDraft :=
  match b.item? id with
  | some (.draft (.type d)) => .ok d
  | some _ => .error (.edit .unsuited)
  | none => .error (.unknown id)

/-- Among those that are added at once, there are no drafts of functions. -/
def findFunction (b : Bench) (id : String) : Except BenchError FunctionDecl :=
  match b.item? id with
  | some (.built (.function f)) => .ok f
  | some _ => .error (.edit .unsuited)
  | none => .error (.unknown id)

def findFunctions (b : Bench) : List String → Except BenchError (List FunctionDecl)
  | [] => return []
  | id :: ids => do
    let f ← b.findFunction id
    let fs ← b.findFunctions ids
    return f :: fs

def declare (i : Item) : Except BenchError Declaration :=
  i.declaration.mapError fun e => .edit (.broken e)

/-- What a command makes, and the name under which it is put. -/
def result (b : Bench) (id : String) : Command → Except BenchError (String × Item)
  | .new kind => .ok (id, .draft (.empty kind))
  | .build target => do
    let i ← b.find id
    let d ← declare i
    return (target, .built d)
  | .edit e => do
    let d ← b.findDraft id
    let d ← (d.edit e).mapError .edit
    return (id, .draft d)
  | .add child => do
    let d ← b.findDraft id
    let i ← b.find child
    let c ← declare i
    let d ← (d.add c).mapError .edit
    return (id, .draft d)
  | .addFunctions children => do
    let d ← b.findType id
    let fs ← b.findFunctions children
    let d ← ((Draft.type d).addEach fs).mapError .edit
    return (id, .draft d)

/-- The bench after a command, which is the bench itself where the command fails. -/
def run (b : Bench) (id : String) (c : Command) : Bench × Except BenchError Item :=
  match b.result id c with
  | .ok (target, i) => (b.put target i, .ok i)
  | .error e => (b, .error e)

end Bench

end FluentKotlin
