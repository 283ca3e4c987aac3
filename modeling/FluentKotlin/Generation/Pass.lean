import FluentKotlin.Generation.BuilderFile
import FluentKotlin.Generation.RootFile

/-! # A generation pass

A pass makes a builder file for every domain and one root file for the root domains. A file that
breaks a rule is a failure of its own and does not touch the other files.
-/

namespace FluentKotlin

structure Failure where
  domain : String
  cause : DeclError
  deriving Inhabited

def Failure.message (f : Failure) : String := f.domain ++ ": " ++ f.cause.message

/-- What became of one file. -/
inductive Outcome where
  | made (file : SourceFile)
  | failed (failure : Failure)
  deriving Inhabited

def Outcome.file? : Outcome → Option SourceFile
  | made file => some file
  | failed _ => none

def Outcome.failure? : Outcome → Option Failure
  | made _ => none
  | failed failure => some failure

structure PassResult where
  outcomes : List Outcome := []
  skipped : Bool := false
  deriving Inhabited

namespace PassResult

def files (r : PassResult) : List SourceFile := r.outcomes.filterMap Outcome.file?

def failures (r : PassResult) : List Failure := r.outcomes.filterMap Outcome.failure?

def isOk (r : PassResult) : Bool := r.failures.isEmpty

end PassResult

namespace Pass

open Reporting (debug warn say)

abbrev Passing := Reporting NameError

/-- The file of one domain. -/
def domainFile (known : KnownDomains) (d : DomainType) (n : Naming) : Generating SourceFile := do
  let schemas ← (Schema.ofDomainType known d).mapError .name
  BuilderFile.generate n schemas

/-- An outcome with an error finding where the file failed. -/
def outcome (domain : String) (finding : String → Finding) :
    Except DeclError SourceFile → Passing Outcome
  | .ok file => pure (.made file)
  | .error e => do
    warn (finding e.message)
    return .failed ⟨domain, e⟩

def domainFinding (d : DomainType) (message : String) : Finding :=
  { severity := .error, message := "builder generation failed: " ++ message,
    domain := some d.qualifiedName }

def rootFinding (message : String) : Finding :=
  { severity := .error, message := "root accessor generation failed: " ++ message }

def domainOutcome (settings : Settings) (known : KnownDomains) (d : DomainType) :
    Passing Outcome := do
  let n ← Naming.ofDomain settings d
  let result ← (domainFile known d n).attempt
  outcome d.qualifiedName (domainFinding d) result

def domainOutcomes (settings : Settings) (known : KnownDomains) :
    List DomainType → Passing (List Outcome)
  | [] => pure []
  | d :: ds => do
    let o ← domainOutcome settings known d
    let os ← domainOutcomes settings known ds
    return o :: os

def rootOutcomes (settings : Settings) (roots : List DomainType) : Passing (List Outcome) :=
  if roots.isEmpty then do
    debug 0 false "No root classes found."
    return []
  else do
    let result ← (RootFile.generate settings roots).attempt
    let o ← outcome settings.rootFilePackage rootFinding result
    return [o]

def settingsNotes (settings : Settings) : List Report :=
  [.note ("rootDslFileClasspath: " ++ settings.rootFilePackage),
    .note ("dslBuilderClasspath: " ++ settings.contractPackage),
    .note ("dslMarkerClass: " ++ settings.marker.getD nothing)]

def countText (r : PassResult) : String :=
  "generated " ++ writtenNat r.files.length ++ " file(s), " ++ writtenNat r.failures.length
    ++ " failure(s)"

def skip (settings : Settings) : Passing PassResult := do
  warn { severity := .warning,
         message := "[SKIP] generate for project: " ++ settings.projectRoot }
  return { skipped := true }

def sayAll : List Report → Passing Unit
  | [] => pure ()
  | r :: rs => do
    say r
    sayAll rs

def run (settings : Settings) (domains : List DomainType) : Passing PassResult :=
  if settings.isIgnored then skip settings
  else do
    debug 0 false ("GENERATE for project: " ++ settings.projectRoot)
    sayAll (settingsNotes settings)
    let files ← domainOutcomes settings (.ofList domains) domains
    let root ← rootOutcomes settings (domains.filter (·.isRoot))
    let result : PassResult := { outcomes := files ++ root }
    say (.info (countText result))
    return result

end Pass

end FluentKotlin
