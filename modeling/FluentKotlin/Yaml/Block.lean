import FluentKotlin.Yaml.Cursor

/-! # Block scalars

A block scalar is made of the lines below its header that are indented deeply enough. A literal
block keeps its line breaks, and a folded one joins lines that start with no white space. The
header says which breaks at the end are kept.
-/

namespace FluentKotlin.Yaml

inductive Chomping where
  | strip
  | clip
  | keep
  deriving DecidableEq, Repr, Inhabited

structure BlockHeader where
  chomping : Chomping := .clip
  /-- The depth of the lines below their collection, where it is given. -/
  increment : Option Nat := none

def chompingOf? : Option Char → Option Chomping
  | some '+' => some .keep
  | some '-' => some .strip
  | _ => none

def chompingMark : Scan (Option Chomping) := do
  let chomping := chompingOf? (← Scan.peek)
  if chomping.isSome then Scan.forward 1
  return chomping

def incrementMark : Scan (Option Nat) := do
  match ← Scan.peek with
  | some c =>
    if c.isDigit then do
      Scan.demand .badBlockHeader (c != '0')
      Scan.forward 1
      return some (c.toNat - 48)
    else return none
  | none => return none

/-- The two marks of a header in either order, and the rest of its line. -/
def blockHeader : Scan BlockHeader := do
  let before ← chompingMark
  let increment ← incrementMark
  let after ← if before.isNone && increment.isSome then chompingMark else pure none
  Scan.demand .badBlockHeader (endsName (← Scan.peek))
  Scan.restOfLine .badBlockHeader
  return ⟨(before.or after).getD .clip, increment⟩

/-- The greatest number of spaces in a row. -/
def widestIndent : Nat → List Char → Nat
  | n, [] => n
  | n, c :: cs => if isSpace c then widestIndent (n + 1) cs else max n (widestIndent 0 cs)

def skipIndent (indent : Nat) : Scan Unit := do
  let c ← get
  Scan.forward ((c.rest.take (indent - c.column)).takeWhile isSpace).length

/-- The breaks of the empty lines that follow. -/
def emptyLines (indent : Nat) : Nat → Scan (List Char)
  | 0 => return []
  | fuel + 1 => do
    skipIndent indent
    match ← Scan.lineBreak with
    | [] => return []
    | b => return b ++ (← emptyLines indent fuel)

structure BlockText where
  body : List Char
  /-- The break after the last line. -/
  lastBreak : List Char
  /-- The breaks of the empty lines at the end. -/
  tail : List Char

def BlockText.chomped (t : BlockText) : Chomping → List Char
  | .strip => t.body
  | .clip => t.body ++ t.lastBreak
  | .keep => t.body ++ t.lastBreak ++ t.tail

def atLine (indent : Nat) (c : Cursor) : Bool := c.column == indent && !c.rest.isEmpty

def startsWide (c : Cursor) : Bool := c.rest.head?.any fun x => isSpace x || isTab x

/-- What joins two lines with empty lines between them. -/
def lineJoint (folded : Bool) (lineBreak breaks : List Char) : List Char :=
  if folded && lineBreak == ['\n'] then (if breaks.isEmpty then [' '] else []) else lineBreak

def blockLines (folded : Bool) (indent : Nat) : Nat → List Char → Scan BlockText
  | 0, breaks => return ⟨[], [], breaks⟩
  | fuel + 1, breaks => do
    let start ← get
    if atLine indent start then
      let line ← Scan.run (!isBreak ·)
      let lineBreak ← Scan.lineBreak
      let next ← emptyLines indent (start.size + 1)
      let cursor ← get
      if atLine indent cursor then
        let folds := folded && !startsWide start && !startsWide cursor
        let more ← blockLines folded indent fuel next
        return { more with
          body := breaks ++ line ++ lineJoint folds lineBreak next ++ more.body }
      else return ⟨breaks ++ line, lineBreak, next⟩
    else return ⟨[], [], breaks⟩

/-- The scalar whose mark stands here. Without an increment the first lines show how deep the lines
are. -/
def blockScalar (folded : Bool) (least : Nat) : Scan (List Char) := do
  Scan.forward 1
  let header ← blockHeader
  let length := (← get).size + 1
  let text ← match header.increment with
    | some n => do
      let indent := least + n - 1
      blockLines folded indent length (← emptyLines indent length)
    | none => do
      let run ← Scan.run fun c => isSpace c || isBreak c
      blockLines folded (max least (widestIndent 0 run)) length (run.filter isBreak)
  return text.chomped header.chomping

end FluentKotlin.Yaml
