import FluentKotlin.Text.Segments

/-! # Commands and their options

The program has two commands, and each has its own options. An option is given by one of its names,
and some take a value.
-/

namespace FluentKotlin

inductive CommandName where
  | generate
  | schemas
  deriving DecidableEq, Repr, Inhabited

inductive CommandOption where
  | help
  | debug
  | out
  | overwrite
  | projectRoot
  | contractPackage
  | rootFilePackage
  | marker
  | ignore
  deriving DecidableEq, Repr, Inhabited

namespace CommandOption

def names : CommandOption → List String
  | help => ["-h", "--help"]
  | debug => ["--debug"]
  | out => ["--out"]
  | overwrite => ["--overwrite"]
  | projectRoot => ["--project-root"]
  | contractPackage => ["--dsl-builder-classpath"]
  | rootFilePackage => ["--root-dsl-file-classpath"]
  | marker => ["--dsl-marker-class"]
  | ignore => ["--ignore"]

def label (o : CommandOption) : String := String.intercalate "/" o.names

def takesValue : CommandOption → Bool
  | out | projectRoot | contractPackage | rootFilePackage | marker => true
  | help | debug | overwrite | ignore => false

/-- The options that have a name, each with that name. -/
def withName (p : String → Bool) (os : List CommandOption) : List (CommandOption × String) :=
  os.flatMap fun o => (o.names.filter p).map fun name => (o, name)

end CommandOption

namespace CommandName

def all : List CommandName := [generate, schemas]

def word : CommandName → String
  | generate => "generate"
  | schemas => "schemas"

def ofWord? (s : String) : Option CommandName := all.find? (·.word == s)

def options : CommandName → List CommandOption
  | generate =>
    [.help, .debug, .out, .overwrite, .projectRoot, .contractPackage, .rootFilePackage, .marker,
      .ignore]
  | schemas => [.help, .debug]

end CommandName

end FluentKotlin
