import FluentKotlin.Domain.Basic
import FluentKotlin.Settings

/-! # Names of what is generated

The names that a domain gives to its builder, its file and its functions.
-/

namespace FluentKotlin

def builderPostfix : String := "DslBuilder"

def filePostfix : String := "Dsl"

/-- The name with a small first letter. -/
def lowerFirst (name : String) : String :=
  match name.toList with
  | [] => ""
  | c :: cs => String.ofList (Text.lowerChar c ++ cs)

/-- The builder of the domain that a class stands for. -/
def builderClassFor (c : ClassName) : ClassName :=
  (c.peer (c.simpleName ++ builderPostfix)).nonNull

structure Naming where
  settings : Settings
  domain : DomainType
  domainClass : ClassName

namespace Naming

def ofDomain (settings : Settings) (domain : DomainType) : Except NameError Naming := do
  let domainClass ← domain.className
  return { settings, domain, domainClass }

def package (n : Naming) : String := n.domainClass.package

def typeName (n : Naming) : String := n.domainClass.simpleName

def builderName (n : Naming) : String := n.typeName ++ builderPostfix

def topLevelClass (package name : String) : ClassName :=
  { package, enclosing := [], simpleName := name }

def builderClass (n : Naming) : ClassName := topLevelClass n.package n.builderName

/-- The contract that the builder fulfils. -/
def contract (n : Naming) : TypeName :=
  .apply (topLevelClass n.settings.contractPackage builderPostfix) [.named n.domainClass]

def fileClass (n : Naming) : ClassName := topLevelClass n.package (n.typeName ++ filePostfix)

def groupName : String := "Group"

def mapGroupName : String := "MapGroup"

/-- The classes in whose scope a caller can be: the builder and its group containers. -/
def scopes (n : Naming) : List ClassName :=
  n.builderClass ::
    ((if n.domain.listGroup then [n.builderClass.nested groupName] else []) ++
      (if n.domain.mapGroup.active then [n.builderClass.nested mapGroupName] else []))

def functionName (n : Naming) : String := lowerFirst n.typeName

end Naming

end FluentKotlin
