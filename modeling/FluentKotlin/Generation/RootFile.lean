import FluentKotlin.Domain.Naming
import FluentKotlin.Generation.Fault

/-! # The root file

The functions that start a builder for a root domain, together in one file and in the order of the
domains.
-/

namespace FluentKotlin

namespace RootFile

open Reporting (debug)

def name : String := "RootDslAccessor"

def doc (n : Naming) : String :=
  "Builds a [" ++ n.typeName ++ "] by applying [block] to a new [" ++ n.builderName ++ "]."

def function (n : Naming) : Except DeclError FunctionDecl := do
  let block ← ParameterDraft.build {
    name := some "block"
    type := some (.scopeOf (.named n.builderClass)) }
  FunctionDraft.build {
    name := some n.functionName
    parameters := [block]
    returns := some (.named n.domainClass)
    doc := some (doc n)
    statements := [⟨"val builder = %T()", [.type (.named n.builderClass)]⟩,
      ⟨"builder.block()", []⟩, ⟨"return builder.build()", []⟩] }

def functions (settings : Settings) : List DomainType → Generating (List FunctionDecl)
  | [] => pure []
  | d :: ds => do
    let n ← Generating.ofName (Naming.ofDomain settings d)
    let f ← Generating.ofDecl (function n)
    debug 1 true ("root function added: " ++ d.qualifiedName)
    let fs ← functions settings ds
    return f :: fs

def generate (settings : Settings) (domains : List DomainType) : Generating SourceFile := do
  let functions ← functions settings domains
  let file ← Generating.ofDecl (FileDraft.build {
    className := some (Naming.topLevelClass settings.rootFilePackage name)
    functions })
  debug 1 false ("file generated: " ++ name)
  return file

end RootFile

end FluentKotlin
