import FluentKotlin.Command.Ending
import FluentKotlin.Document.Text
import FluentKotlin.Kotlin.Layout
import FluentKotlin.Store.Basic
import FluentKotlin.Text.Lines

/-! # Running a request

To generate, the program makes one pass over the domains of the document and writes every file that
came of it below the destination. Nothing is written where the document or its settings have a
fault, where the pass is ignored, or where the destination has to be empty and is not. To show the
schemas, it prints one line for every property.
-/

namespace FluentKotlin

namespace Request

variable {m : Type → Type} [Monad m] [FileStore m]

def defaultDestination : String := "generated"

def isDebug (r : Request) : Bool := r.has .debug

/-- The text of the domain file with its line breaks as line feeds, none where there is no file. -/
def readDomainFile (directory : Path) (r : Request) : m (Option String) := do
  let path := directory.join (.ofString r.domainFile)
  if (← FileStore.kind? path).isSome then
    let text ← FileStore.read path
    return some (String.ofList (Text.unifyBreaks text.toList))
  else return none

def noFileText (r : Request) : String :=
  "Domain file does not exist: " ++ (Path.ofString r.domainFile).written

/-- Go on with the document that the domain file holds. -/
def withDocument (directory : Path) (r : Request) (next : Document → m Ending) : m Ending := do
  match ← r.readDomainFile directory with
  | none => return .refused [] r.noFileText
  | some text =>
    match Document.ofText text with
    | .ok doc => next doc
    | .error e => return .ofDocumentError e

/-- The settings that a command line gives, which take the place of those of the document. -/
def settingOptions : List (CommandOption × String) :=
  [(.projectRoot, "projectRootClasspath"), (.contractPackage, "dslBuilderClasspath"),
    (.rootFilePackage, "rootDslFileClasspath"), (.marker, "dslMarkerClass")]

def putSetting (r : Request) (options : Entries) (o : CommandOption × String) : Entries :=
  match r.value? o.1 with
  | some value => putEntry (.text o.2) value.value options
  | none => options

def settingsEntries (r : Request) (options : Entries) : Entries :=
  let given := settingOptions.foldl r.putSetting options
  if r.has .ignore then putEntry (.text "isIgnored") (.bool true) given else given

def notEmptyText (destination : Path) : String :=
  "Output directory is not empty: " ++ destination.written ++ " (use --overwrite to allow)"

def wroteLine (count : Nat) (destination : Path) : String :=
  Ending.logLine (programName ++ ".cli")
    ⟨.info, "wrote " ++ writtenNat count ++ " file(s) to " ++ destination.written⟩

def writeFile (path : Path) (text : String) : m Unit := do
  FileStore.makeDirectory path.parent
  FileStore.write path text

/-- Write the files one after the other, up to the first that has no text. -/
def writeFiles (destination : Path) : List SourceFile → m (Except FormatError Unit)
  | [] => return .ok ()
  | f :: fs => do
    match f.text with
    | .error e => return .error e
    | .ok text => do
      writeFile (f.outputPath destination) text
      writeFiles destination fs

def writeResult (destination : Path) (result : PassResult) (messages : List String) :
    m Ending := do
  match ← writeFiles destination result.files with
  | .error e => return .refused messages e.message
  | .ok () =>
    let wrote := wroteLine result.files.length destination
    let failures := result.failures.map fun f => Ending.errorLine f.message
    let code := if result.isOk then 0 else Ending.failureCode
    return .done code [] (messages ++ wrote :: failures)

/-- The path of the destination, none where the option for it has no value. -/
def destination? (r : Request) : Option Path :=
  match r.value? .out with
  | none => some (.ofString defaultDestination)
  | some (.text s) => some (.ofString s)
  | some .nothing => none

/-- Write what came of a pass, if the destination may be used. -/
def useDestination (directory path : Path) (r : Request) (result : PassResult)
    (messages : List String) : m Ending := do
  let destination ← FileStore.resolve directory path
  FileStore.makeDirectory destination
  if r.has .overwrite || (← FileStore.isEmpty destination) then
    writeResult destination result messages
  else return .refused messages (notEmptyText destination)

def finishPass (directory : Path) (r : Request) (result : PassResult) (messages : List String) :
    m Ending :=
  match r.destination? with
  | some path => useDestination directory path r result messages
  | none => return .broken .noDestination

def generate (directory : Path) (r : Request) (doc : Document) : m Ending := do
  match Settings.ofOptions (r.settingsEntries doc.options) with
  | .error e => return .ofSettingsError e
  | .ok settings =>
    let (ended, journal) :=
      (Pass.generate (.ready settings) doc.domains).outcome { debugEnabled := r.isDebug }
    match ended with
    | .error e => return .ofGenerateError e
    | .ok result =>
      if result.skipped then return .done 0 [] (Ending.logLines journal)
      else r.finishPass directory result.toPassResult (Ending.logLines journal)

def schemaLines (d : DomainType) (schemas : List Schema) : List String :=
  d.qualifiedName :: schemas.map fun s => "  " ++ s.describe

/-- The lines for all domains. -/
def allSchemaLines (known : KnownDomains) : List DomainType → Reporting NameError (List String)
  | [] => pure []
  | d :: ds => do
    let schemas ← Schema.ofDomainType known d
    let lines ← allSchemaLines known ds
    return schemaLines d schemas ++ lines

def showSchemas (r : Request) (doc : Document) : Ending :=
  let (ended, journal) :=
    (Journaling.perform (allSchemaLines (.ofList doc.domains) doc.domains)).outcome
      { debugEnabled := r.isDebug }
  match ended with
  | .error e => .broken (.name e)
  | .ok lines =>
    .done 0 lines (Ending.logLines journal
      ++ journal.warnings.map fun f => Ending.warningLine f.written)

def run (directory : Path) (r : Request) : m Ending :=
  match r.command with
  | .generate => r.withDocument directory (r.generate directory)
  | .schemas => r.withDocument directory fun doc => return r.showSchemas doc

end Request

def usageLines : List String :=
  [programName ++ " generate FILE [options]: write the builders of the domains of a file",
    programName ++ " schemas FILE: show how every property is set"]

/-- Run the program with the words of a command line. -/
def runArguments {m : Type → Type} [Monad m] [FileStore m] (directory : Path)
    (words : List String) : m Ending :=
  match Request.ofArguments words with
  | .error e => return .done Ending.refusalCode [] [e.line]
  | .ok none => return .done 0 usageLines []
  | .ok (some r) => r.run directory

end FluentKotlin
