import FluentKotlin.Domain.TypeRef

/-! # Domains

A domain is a record type with its properties. A property may have a hint that its value is
converted from another type, and a default that is given as a literal.
-/

namespace FluentKotlin

/-- The value is built from an input of another type, by a template where there is one. -/
structure TransformHint where
  input : Option TypeRef
  template : Option String
  deriving Repr, Inhabited

structure DefaultHint where
  literal : String
  valueType : TypeRef
  deriving Repr, Inhabited

def DefaultHint.isString (h : DefaultHint) : Bool := h.valueType.kind == .string

structure DomainProperty where
  name : String
  declared : TypeRef
  nullable : Bool := false
  ordinal : Nat := 0
  isLast : Bool := true
  transform : Option TransformHint := none
  default : Option DefaultHint := none
  deriving Repr, Inhabited

def DomainProperty.typeName (p : DomainProperty) : Except NameError TypeName :=
  p.declared.typeAs p.nullable

structure DomainType where
  qualifiedName : String
  properties : List DomainProperty := []
  isRoot : Bool := false
  listGroup : Bool := false
  mapGroup : MapGroup := .none
  deriving Repr, Inhabited

namespace DomainType

def className (d : DomainType) : Except NameError ClassName := ClassName.ofQualified d.qualifiedName

def simpleName (d : DomainType) : Except NameError String := d.className.map (·.simpleName)

def asRef (d : DomainType) : TypeRef := .generated d.qualifiedName d.listGroup d.mapGroup []

end DomainType

end FluentKotlin
