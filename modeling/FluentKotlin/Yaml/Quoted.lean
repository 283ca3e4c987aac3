import FluentKotlin.Text.Digit
import FluentKotlin.Yaml.Cursor

/-! # Quoted scalars

Between single quotes a doubled quote stands for one. Between double quotes a backslash starts an
escape, which may name half of a character. In both the breaks of lines are folded, and the white
space around them is left out.
-/

namespace FluentKotlin.Yaml

def simpleEscapes : List (Char × Char) :=
  [('0', '\x00'), ('a', '\x07'), ('b', '\x08'), ('t', '\t'), ('\t', '\t'), ('n', '\n'),
    ('v', '\x0b'), ('f', '\x0c'), ('r', '\r'), ('e', '\x1b'), (' ', ' '), ('\x22', '\x22'),
    ('\\', '\\'), ('/', '/'), ('N', '\u0085'), ('_', '\u00a0'), ('L', '\u2028'), ('P', '\u2029')]

/-- The number of digits after the letter of an escape that gives a code. -/
def codeLengths : List (Char × Nat) := [('x', 2), ('u', 4), ('U', 8)]

/-- A code of so many digits that follows. -/
def code (length : Nat) : Scan Nat := do
  let digits := (← get).rest.take length
  match Text.numberOf? 16 digits with
  | some n =>
    Scan.demand .badEscape (digits.length == length)
    Scan.forward length
    return n
  | none => throw .badEscape

/-- The least code that is too large to be looked up. -/
def codeLimit : Nat := 0x80000000

def charLimit : Nat := 0x110000

/-- What an escape of so many digits stands for, a character or half of one. -/
def codeChars (length : Nat) : Scan (List Char) := do
  let n ← code length
  Scan.demand (.scalar .largeCode) (n < codeLimit)
  Scan.demand (.scalar .noCharacter) (n < charLimit)
  return Text.ofCode n

def isQuotedGap (c : Char) : Bool := isSpace c || isTab c || isBreak c

/-- The breaks in the white space that follows. -/
def quotedBreaks : Scan (List Char) := do
  let run ← Scan.run isQuotedGap
  let breaks := run.filter isBreak
  if !breaks.isEmpty && (← get).atSeparator then throw .separatorInQuotes
  else return breaks

/-- White space between quotes, folded where it goes over the end of a line. -/
def quotedGap : Scan (List Char) := do
  let spaces := (← get).rest.takeWhile isQuotedGap
  let breaks ← quotedBreaks
  return if breaks.isEmpty then spaces else foldBreaks breaks

/-- What an escape stands for. A break after a backslash is left out. -/
def escape : Scan (List Char) := do
  match ← Scan.peek with
  | none => throw .badEscape
  | some c =>
    match simpleEscapes.lookup c, codeLengths.lookup c with
    | some meant, _ => do
      Scan.forward 1
      return [meant]
    | none, some length => do
      Scan.forward 1
      codeChars length
    | none, none =>
      if isBreak c then return (← quotedBreaks).drop 1 else throw .badEscape

def isQuote (c : Char) : Bool := c == '\'' || c == '\x22'

def isOrdinary (c : Char) : Bool := !(isQuote c || c == '\\' || isQuotedGap c)

/-- The characters that mean themselves, at least the one that stands here. -/
def ordinary (c : Char) : Scan (List Char) := do
  let run ← Scan.run isOrdinary
  if run.isEmpty then do
    Scan.forward 1
    return [c]
  else return run

/-- The next part of a scalar between quotes, none at the closing quote. -/
def quotedPart (quote : Char) : Scan (Option (List Char)) := do
  match (← get).rest with
  | [] => throw .openQuote
  | c :: cs =>
    if isQuotedGap c then return some (← quotedGap)
    else if c == quote then
      if c == '\'' && cs.head? == some '\'' then
        Scan.forward 2
        return some ['\'']
      else
        Scan.forward 1
        return none
    else if c == '\\' && quote == '\x22' then
      Scan.forward 1
      return some (← escape)
    else return some (← ordinary c)

def quotedParts (quote : Char) : Nat → Scan (List Char)
  | 0 => throw .openQuote
  | fuel + 1 => do
    match ← quotedPart quote with
    | none => return []
    | some part => return part ++ (← quotedParts quote fuel)

/-- The text of the scalar whose opening quote stands here. -/
def quotedScalar (quote : Char) : Scan (List Char) := do
  Scan.forward 1
  quotedParts quote ((← get).size + 1)

end FluentKotlin.Yaml
