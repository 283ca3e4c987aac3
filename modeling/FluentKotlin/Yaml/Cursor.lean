import FluentKotlin.Yaml.Flaw

/-! # Reading position

A cursor is a position in a text with what is left of it. All line breaks but those of Unicode are
one line feed here, and a byte order mark takes no column. What is counted are codes, so the mark of
a stand-in counts for nothing.
-/

namespace FluentKotlin.Yaml

structure Cursor where
  rest : List Char
  /-- The number of characters of the whole text. -/
  size : Nat
  line : Nat := 0
  column : Nat := 0
  index : Nat := 0
  deriving Repr, Inhabited

def isBreak (c : Char) : Bool := c == '\n' || c == '\u2028' || c == '\u2029'

def isSpace (c : Char) : Bool := c == ' '

def isTab (c : Char) : Bool := c == '\t'

def endsLine : Option Char → Bool
  | none => true
  | some c => isBreak c

/-- Whether a name in a header line ends here. -/
def endsName : Option Char → Bool
  | none => true
  | some c => isSpace c || isBreak c

/-- Whether a mark that needs white space after it ends here. -/
def endsMark : Option Char → Bool
  | none => true
  | some c => isSpace c || isTab c || isBreak c

namespace Cursor

/-- How many codes a character adds to those before it. -/
def length (c : Char) : Nat := if c == Text.mark then 0 else 1

def width (c : Char) : Nat := if c == '\ufeff' then 0 else length c

def next (c : Cursor) : Cursor :=
  match c.rest with
  | [] => c
  | x :: xs =>
    if isBreak x then { c with rest := xs, line := c.line + 1, column := 0, index := c.index + 1 }
    else { c with rest := xs, column := c.column + width x, index := c.index + length x }

def skip : Nat → Cursor → Cursor
  | 0, c => c
  | n + 1, c => skip n c.next

/-- Whether a line of three dashes or dots starts here. -/
def isSeparator : List Char → Bool
  | '-' :: '-' :: '-' :: cs => endsMark cs.head?
  | '.' :: '.' :: '.' :: cs => endsMark cs.head?
  | _ => false

def atSeparator (c : Cursor) : Bool := c.column == 0 && isSeparator c.rest

end Cursor

/-- A reader that moves a cursor. -/
abbrev Scan := StateT Cursor (Except Flaw)

namespace Scan

def peek : Scan (Option Char) := do return (← get).rest.head?

def forward (n : Nat) : Scan Unit := modify (·.skip n)

/-- The characters up to the first that does not belong. -/
def run (p : Char → Bool) : Scan (List Char) := do
  let chars := (← get).rest.takeWhile p
  forward chars.length
  return chars

/-- The line break that stands here, if one does. -/
def lineBreak : Scan (List Char) := do
  match ← peek with
  | some c =>
    if isBreak c then do
      forward 1
      return [c]
    else return []
  | none => return []

def demand (flaw : Flaw) (holds : Bool) : Scan Unit :=
  if holds then pure () else throw flaw

/-- A comment may follow, and then the line has to end. -/
def restOfLine (flaw : Flaw) : Scan Unit := do
  let _ ← run isSpace
  if (← peek) == some '#' then
    let _ ← run (!isBreak ·)
  demand flaw (endsLine (← peek))
  let _ ← lineBreak

end Scan

/-- How the breaks between two words are folded: a single one is a space, and of several the first
only ends its line. -/
def foldBreaks : List Char → List Char
  | [] => []
  | b :: bs => if b == '\n' then (if bs.isEmpty then [' '] else bs) else b :: bs

end FluentKotlin.Yaml
