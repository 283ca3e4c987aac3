import FluentKotlin.Domain.Basic
import FluentKotlin.Domain.Naming
import FluentKotlin.Kotlin.DeclarationShown
import FluentKotlin.Kotlin.Draft

/-! # Property schemas

The way in which a builder lets its caller set one property. Every schema has the name of the
property, whether it may be left out, and its default. The form says what the property holds and
how it is set.
-/

namespace FluentKotlin

inductive Form where
  | boolean
  | plain (type : TypeName)
  | map (key value : TypeName)
  | collection (element : TypeName)
  | group (elementClass elementBuilder : ClassName) (doc : Option String)
  | mapGroup (key : TypeName) (valueClass valueBuilder : ClassName) (doc : Option String)
  | builder (type : TypeName) (nestedBuilder : ClassName) (doc : Option String)
  | transform (type input : TypeName) (template : Option String)
  deriving Repr, Inhabited

structure Schema where
  name : String
  nullable : Bool
  default : Option DefaultHint
  form : Form
  deriving Repr, Inhabited

namespace Form

def title : Form → String
  | boolean => "Boolean"
  | plain _ => "Default"
  | map _ _ => "Map"
  | collection _ => "Collection"
  | group _ _ _ => "Group"
  | mapGroup _ _ _ _ => "MapGroup"
  | builder _ _ _ => "Builder"
  | transform _ _ _ => "SingleTransform"

/-- The type that the property is stored in. -/
def type (nullable : Bool) : Form → TypeName
  | boolean => TypeName.boolean.withNullable nullable
  | plain t => t
  | map key value => (TypeName.mapOf key value).withNullable nullable
  | collection element => (TypeName.listOf element).withNullable nullable
  | group elementClass _ _ => (TypeName.listOf (.named elementClass)).withNullable nullable
  | mapGroup key valueClass _ _ =>
    (TypeName.mapOf key (.named valueClass)).withNullable nullable
  | builder t _ _ => t
  | transform t _ _ => t

def access : Form → Modifier
  | boolean | plain _ => .isPublic
  | map _ _ | collection _ | builder _ _ _ | transform _ _ _ => .isProtected
  | group _ _ _ | mapGroup _ _ _ _ => .isPrivate

end Form

/-- The class of the container that collects the elements of a group. -/
def groupClass (elementBuilder : ClassName) : ClassName := elementBuilder.nested Naming.groupName

/-- The type of the container that collects the entries of a map group. -/
def mapGroupType (key : TypeName) (valueBuilder : ClassName) : TypeName :=
  .apply (valueBuilder.nested Naming.mapGroupName) [key.nonNull]

inductive Iteration where
  | collection
  | map
  deriving DecidableEq, Repr, Inhabited

def Iteration.name : Iteration → String
  | collection => "collection"
  | map => "map"

def Form.iteration? : Form → Option Iteration
  | .collection _ | .group _ _ _ => some .collection
  | .map _ _ | .mapGroup _ _ _ _ => some .map
  | _ => none

/-- What `build` demands of a stored value. -/
inductive Check where
  | notNull
  | collectionNotEmpty
  | mapNotEmpty
  deriving DecidableEq, Repr, Inhabited

def Check.helper : Check → String
  | notNull => "vRequireNotNull"
  | collectionNotEmpty => "vRequireCollectionNotEmpty"
  | mapNotEmpty => "vRequireMapNotEmpty"

def Check.all : List Check := [notNull, collectionNotEmpty, mapNotEmpty]

namespace Schema

def type (s : Schema) : TypeName := s.form.type s.nullable

/-- A property that may be left out is not checked, a list or map must have members, and anything
else must be there. -/
def check? (s : Schema) : Option Check :=
  if s.nullable then none
  else match s.form.iteration? with
    | some .collection => some .collectionNotEmpty
    | some .map => some .mapNotEmpty
    | none => some .notNull

/-- The expression that `build` passes to the constructor. -/
def valueCode (s : Schema) : CodeBlock :=
  match s.check? with
  | none => ⟨"%N", [.text s.name]⟩
  | some c => ⟨c.helper ++ "(::%N)", [.text s.name]⟩

def defaultCode (d : DefaultHint) : CodeBlock :=
  ⟨if d.isString then "%S" else "%L", [.text d.literal]⟩

def initializer (s : Schema) : CodeBlock :=
  match s.default with
  | some d => defaultCode d
  | none => ⟨"null", []⟩

/-- The variable of the builder that stores the property, null until it is set. -/
def storedProperty (s : Schema) : Except DeclError PropertyDecl :=
  PropertyDraft.build {
    name := some s.name
    modifiers := [s.form.access]
    type := some (s.type.withNullable true)
    initializer := some s.initializer }

def describe (s : Schema) : String :=
  s.form.title ++ "(" ++ s.name ++ (if s.nullable then ", nullable" else "") ++ ")"

end Schema

end FluentKotlin
