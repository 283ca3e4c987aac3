import FluentKotlin.Yaml.Cursor

/-! # Plain scalars

A scalar without quotes is made of words with gaps between them. A word ends at white space, before
a colon that ends a key, and inside brackets at every mark of a flow collection.
-/

namespace FluentKotlin.Yaml

def isBracketMark (c : Char) : Bool := c ∈ [',', '[', ']', '{', '}']

def endsKey (inFlow : Bool) (next : Option Char) : Bool :=
  endsMark next || (inFlow && next.any isBracketMark)

def endsPlain (inFlow : Bool) (c : Char) (next : Option Char) : Bool :=
  endsMark (some c) || (c == ':' && endsKey inFlow next)
    || (inFlow && (isBracketMark c || c == '?'))

def plainWord (inFlow : Bool) : List Char → List Char
  | [] => []
  | c :: cs => if endsPlain inFlow c cs.head? then [] else c :: plainWord inFlow cs

/-- What stands between two words, and whether it goes over a line end. -/
structure Gap where
  chars : List Char
  newLine : Bool

def isGap (c : Char) : Bool := isSpace c || isBreak c

def plainGap : Scan Gap := do
  let run ← Scan.run isGap
  let breaks := run.filter isBreak
  if breaks.isEmpty then return ⟨run, false⟩
  else if (← get).atSeparator then return ⟨[], true⟩
  else return ⟨foldBreaks breaks, true⟩

structure PlainText where
  chars : List Char
  /-- Whether the gap after the last word goes over a line end. -/
  newLine : Bool

/-- Whether the scalar goes on after a gap: not before a comment, and outside of brackets only
deeper than its collection. -/
def goesOn (inFlow : Bool) (indent : Nat) (gap : Gap) (c : Cursor) : Bool :=
  !gap.chars.isEmpty && c.rest.head? != some '#' && (inFlow || indent ≤ c.column)

def plainText (inFlow : Bool) (indent : Nat) : Nat → Gap → Scan PlainText
  | 0, gap => return ⟨[], gap.newLine⟩
  | fuel + 1, gap => do
    let word := plainWord inFlow (← get).rest
    if word.isEmpty then return ⟨[], gap.newLine⟩
    else
      Scan.forward word.length
      let next ← plainGap
      if goesOn inFlow indent next (← get) then
        let more ← plainText inFlow indent fuel next
        return ⟨gap.chars ++ word ++ more.chars, more.newLine⟩
      else return ⟨gap.chars ++ word, next.newLine⟩

/-- The scalar that starts here, where its lines have to be indented by so much. -/
def plainScalar (inFlow : Bool) (indent : Nat) : Scan PlainText := do
  plainText inFlow indent (← get).size ⟨[], false⟩

end FluentKotlin.Yaml
