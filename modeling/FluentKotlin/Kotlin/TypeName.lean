import FluentKotlin.Kotlin.ClassName
import FluentKotlin.Text.Record

/-! # Type names

A type is a class, a class applied to type arguments, a type variable, or the type of a function
with an optional receiver. A function type without a result type returns `Unit`. A type is
written with qualified names and rendered with local ones, and it refers to the classes that
occur in it.
-/

namespace FluentKotlin

inductive TypeName where
  | named (name : ClassName)
  | applied (raw : ClassName) (arguments : List TypeName) (nullable : Bool)
  | typeVariable (name : String) (nullable : Bool)
  | lambda (receiver : Option TypeName) (parameters : List TypeName) (returns : Option TypeName)
      (nullable : Bool)
  deriving Repr, Inhabited

def kotlinClass (name : String) : ClassName :=
  { package := "kotlin", enclosing := [], simpleName := name }

def collectionsClass (name : String) : ClassName :=
  { package := "kotlin.collections", enclosing := [], simpleName := name }

/-- The packages whose classes every file sees without an import. -/
def defaultPackages : List String := ["kotlin", "kotlin.collections"]

def numericNames : List String := ["Byte", "Short", "Int", "Long", "Float", "Double"]

namespace TypeName

def boolean : TypeName := .named (kotlinClass "Boolean")

def string : TypeName := .named (kotlinClass "String")

def unitClass : ClassName := kotlinClass "Unit"

def nullable : TypeName → Bool
  | named c => c.nullable
  | applied _ _ n => n
  | typeVariable _ n => n
  | lambda _ _ _ n => n

def withNullable (b : Bool) : TypeName → TypeName
  | named c => named (c.withNullable b)
  | applied raw arguments _ => applied raw arguments b
  | typeVariable name _ => typeVariable name b
  | lambda receiver parameters returns _ => lambda receiver parameters returns b

def nonNull (t : TypeName) : TypeName := t.withNullable false

/-- A class applied to type arguments. -/
def apply (c : ClassName) (arguments : List TypeName) : TypeName :=
  applied c.nonNull arguments false

def listOf (element : TypeName) : TypeName := apply (collectionsClass "List") [element]

def mutableListOf (element : TypeName) : TypeName :=
  apply (collectionsClass "MutableList") [element]

def mapOf (key value : TypeName) : TypeName := apply (collectionsClass "Map") [key, value]

def mutableMapOf (key value : TypeName) : TypeName :=
  apply (collectionsClass "MutableMap") [key, value]

/-- The type of a function on a receiver that returns nothing. -/
def scopeOf (receiver : TypeName) : TypeName := lambda (some receiver) [] none false

def lambdaText (receiver : String) (parameters : List String) (returns : String)
    (nullable : Bool) : String :=
  let body := receiver ++ "(" ++ String.intercalate ", " parameters ++ ") -> " ++ returns
  if nullable then "(" ++ body ++ ")?" else body

mutual

/-- The text of a type, given the text of its classes. -/
def textWith (classText : ClassName → String) : TypeName → String
  | named c => classText c
  | applied raw arguments nullable =>
    classText raw ++ "<" ++ String.intercalate ", " (textsWith classText arguments) ++ ">"
      ++ nullMark nullable
  | typeVariable name nullable => name ++ nullMark nullable
  | lambda receiver parameters returns nullable =>
    lambdaText (receiverTextWith classText receiver) (textsWith classText parameters)
      (returnTextWith classText returns) nullable

def textsWith (classText : ClassName → String) : List TypeName → List String
  | [] => []
  | t :: ts => textWith classText t :: textsWith classText ts

def receiverTextWith (classText : ClassName → String) : Option TypeName → String
  | none => ""
  | some t => textWith classText t ++ "."

def returnTextWith (classText : ClassName → String) : Option TypeName → String
  | none => classText unitClass
  | some t => textWith classText t

end

def written (t : TypeName) : String := t.textWith ClassName.written

def rendered (t : TypeName) : String := t.textWith ClassName.rendered

mutual

/-- Every class that occurs in the type, in the order of its text and with repetitions. -/
def references : TypeName → List ClassName
  | named c => [c.nonNull]
  | applied raw arguments _ => raw.nonNull :: referencesAll arguments
  | typeVariable _ _ => []
  | lambda receiver parameters returns _ =>
    referencesReceiver receiver ++ (referencesAll parameters ++ referencesReturn returns)

def referencesAll : List TypeName → List ClassName
  | [] => []
  | t :: ts => references t ++ referencesAll ts

def referencesReceiver : Option TypeName → List ClassName
  | none => []
  | some t => references t

def referencesReturn : Option TypeName → List ClassName
  | none => [unitClass]
  | some t => references t

end

@[simp] theorem nullable_withNullable (b : Bool) (t : TypeName) :
    (t.withNullable b).nullable = b := by
  cases t <;> rfl

@[simp] theorem withNullable_withNullable (a b : Bool) (t : TypeName) :
    (t.withNullable a).withNullable b = t.withNullable b := by
  cases t <;> rfl

@[simp] theorem withNullable_nullable (t : TypeName) : t.withNullable t.nullable = t := by
  cases t <;> rfl

@[simp] theorem references_withNullable (b : Bool) (t : TypeName) :
    (t.withNullable b).references = t.references := by
  cases t <;> simp [withNullable, references]

theorem textsWith_eq_map (classText : ClassName → String) (ts : List TypeName) :
    textsWith classText ts = ts.map (textWith classText) := by
  induction ts with
  | nil => simp [textsWith]
  | cons t ts ih => simp [textsWith, ih]

theorem referencesAll_eq_flatMap (ts : List TypeName) :
    referencesAll ts = ts.flatMap references := by
  induction ts with
  | nil => simp [referencesAll]
  | cons t ts ih => simp [referencesAll, ih]

end TypeName

end FluentKotlin
