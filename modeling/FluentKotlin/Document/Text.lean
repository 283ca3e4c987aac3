import FluentKotlin.Document.Basic
import FluentKotlin.Yaml.Reading

/-! # Texts of documents

A document is written as YAML, or as the frontmatter of another text, between a first line of three
dashes and the next such line.
-/

namespace FluentKotlin

namespace Document

def openingLine : List Char := "---\n".toList

/-- The break before a closing line, and the line. -/
def closingLine : List Char := "\n---\n".toList

/-- What stands before the first closing line. -/
def beforeClosing : List Char → Option (List Char)
  | [] => none
  | c :: cs =>
    if closingLine.isPrefixOf (c :: cs) then some [] else (beforeClosing cs).map (c :: ·)

/-- The text after an opening line. -/
def afterOpening? (text : String) : Option (List Char) :=
  if Text.startsWith "---\n" text then some (text.toList.drop openingLine.length) else none

/-- The sections in a part of a text, where the part may have faults of its own. -/
def sectionsOfPart (flawed : Yaml.Flaw → DocumentError) (misshapen : DocumentError)
    (part : String) : Describing Entries :=
  match Yaml.read part with
  | .ok v => sectionsOr misshapen v
  | .error (.scalar e) => .error (.scalar e)
  | .error .tooDeep => .error .tooDeep
  | .error flaw => .error (flawed flaw)

def sectionsOfFrontmatter (after : List Char) : Describing Entries :=
  match beforeClosing after with
  | none => .error .openFrontmatter
  | some part => sectionsOfPart .malformedFrontmatter .frontmatterShape (String.ofList part)

/-- The sections of the document in a text. -/
def sections (text : String) : Describing Entries :=
  match afterOpening? text with
  | some after => sectionsOfFrontmatter after
  | none => sectionsOfPart .malformed .shape text

/-- The document that a text describes. -/
def ofText (text : String) : Describing Document := do
  let entries ← sections text
  ofEntries entries

end Document

end FluentKotlin
