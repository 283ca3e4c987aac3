import FluentKotlin.Yaml.Block
import FluentKotlin.Yaml.Plain
import FluentKotlin.Yaml.Property

/-! # From text to tokens

The lexer reads one token after the other and turns indentation into tokens. It holds the columns
of the open block collections, and for every open bracket the token that may turn out to be a key.
Only a colon shows that it was one, on the same line and not too far away, and then the mark of the
key is put in front of it.
-/

namespace FluentKotlin.Yaml

/-- A token that is a key if a colon follows. -/
structure PendingKey where
  /-- The number of tokens before it. -/
  place : Nat
  required : Bool
  line : Nat
  column : Nat
  index : Nat

structure Lexer where
  cursor : Cursor
  /-- The columns of the open block collections, the innermost first. -/
  columns : List Nat := []
  /-- The pending keys of the brackets around the innermost. -/
  outerKeys : List (Option PendingKey) := []
  pending : Option PendingKey := none
  keyAllowed : Bool := true
  /-- The tokens so far, the last first. -/
  tokens : List Token := []
  count : Nat := 0

abbrev Lexing := StateT Lexer (Except Flaw)

namespace Lexer

def inFlow (l : Lexer) : Bool := !l.outerKeys.isEmpty

/-- The depth that the lines of a scalar need below the innermost block collection. -/
def scalarIndent (l : Lexer) : Nat :=
  match l.columns with
  | [] => 0
  | column :: _ => column + 1

def isDeeper (l : Lexer) (column : Nat) : Bool :=
  match l.columns with
  | [] => true
  | c :: _ => c < column

def push (token : Token) (l : Lexer) : Lexer :=
  { l with tokens := token :: l.tokens, count := l.count + 1 }

def pushAll (tokens : List Token) (l : Lexer) : Lexer := tokens.foldl (fun l t => l.push t) l

/-- Put a token at a place among the tokens so far. -/
def insertAt (place : Nat) (token : Token) (l : Lexer) : Lexer :=
  let later := l.count - place
  { l with
    tokens := l.tokens.take later ++ token :: l.tokens.drop later
    count := l.count + 1 }

def closeBlocks (stays : Nat → Bool) (l : Lexer) : Lexer :=
  let closed := l.columns.takeWhile (!stays ·)
  pushAll (closed.map fun _ => .blockEnd) { l with columns := l.columns.drop closed.length }

/-- Close the block collections that are indented deeper than a column. -/
def unwind (column : Nat) (l : Lexer) : Lexer :=
  if l.inFlow then l else l.closeBlocks (· ≤ column)

def unwindAll (l : Lexer) : Lexer := if l.inFlow then l else l.closeBlocks fun _ => false

def openBlock (column : Nat) (l : Lexer) : Lexer := { l with columns := column :: l.columns }

def maxKeyLength : Nat := 1024

def isStale (c : Cursor) (k : PendingKey) : Bool :=
  k.line != c.line || maxKeyLength < c.index - k.index

/-- A key that the cursor is too far from is none, which a required key must not be. -/
def refresh (c : Cursor) : Option PendingKey → Except Flaw (Option PendingKey)
  | none => .ok none
  | some k =>
    if isStale c k then (if k.required then .error .missingColon else .ok none) else .ok (some k)

def refreshAll (c : Cursor) : List (Option PendingKey) → Except Flaw (List (Option PendingKey))
  | [] => .ok []
  | k :: ks => do
    let key ← refresh c k
    let keys ← refreshAll c ks
    return key :: keys

def dropStale (l : Lexer) : Except Flaw Lexer := do
  let pending ← refresh l.cursor l.pending
  let outerKeys ← refreshAll l.cursor l.outerKeys
  return { l with pending, outerKeys }

def dropKey (l : Lexer) : Except Flaw Lexer :=
  if l.pending.any (·.required) then .error .missingColon else .ok { l with pending := none }

/-- The next token may be a key. It has to be one where the lines of a block mapping start. -/
def saveKey (l : Lexer) : Except Flaw Lexer := do
  if l.keyAllowed then
    let l ← l.dropKey
    let c := l.cursor
    let required := !l.inFlow && l.columns.head? == some c.column
    return { l with pending := some ⟨l.count, required, c.line, c.column, c.index⟩ }
  else return l

end Lexer

namespace Lexing

def scan {α : Type} (x : Scan α) : Lexing α := do
  let l ← get
  let (a, cursor) ← x l.cursor
  set { l with cursor }
  return a

def change (f : Lexer → Except Flaw Lexer) : Lexing Unit := do
  set (← (f (← get) : Except Flaw Lexer))

def emit (token : Token) : Lexing Unit := modify (·.push token)

def allowKey (allowed : Bool) : Lexing Unit := modify ({ · with keyAllowed := allowed })

def mark (length : Nat) (token : Token) : Lexing Unit := do
  scan (Scan.forward length)
  emit token

def directive : Lexing Unit := do
  modify Lexer.unwindAll
  change Lexer.dropKey
  allowKey false
  emit (← scan Yaml.directive)

def separator (token : Token) : Lexing Unit := do
  modify Lexer.unwindAll
  change Lexer.dropKey
  allowKey false
  mark 3 token

def openFlow (token : Token) : Lexing Unit := do
  change Lexer.saveKey
  modify fun l => { l with outerKeys := l.pending :: l.outerKeys, pending := none }
  allowKey true
  mark 1 token

def closeFlow (token : Token) : Lexing Unit := do
  change Lexer.dropKey
  match (← get).outerKeys with
  | [] => throw (.unexpected (some token))
  | key :: keys => modify fun l => { l with outerKeys := keys, pending := key }
  allowKey false
  mark 1 token

def flowEntry : Lexing Unit := do
  allowKey true
  change Lexer.dropKey
  mark 1 .flowEntry

/-- Open a block collection where the cursor stands, if it is deeper than the open ones. -/
def openHere (c : Char) (token : Token) : Lexing Unit := do
  let l ← get
  if l.inFlow then pure ()
  else if !l.keyAllowed then throw (.misplaced c)
  else if l.isDeeper l.cursor.column then
    modify fun l => (l.openBlock l.cursor.column).push token

def blockEntry : Lexing Unit := do
  openHere '-' .blockSequenceStart
  allowKey true
  change Lexer.dropKey
  mark 1 .blockEntry

def explicitKey : Lexing Unit := do
  openHere '?' .blockMappingStart
  allowKey (!(← get).inFlow)
  change Lexer.dropKey
  mark 1 .key

/-- The pending token was a key, and it starts a mapping where it is deeper than the open ones. -/
def confirmKey (k : PendingKey) : Lexing Unit := do
  modify fun l => { l with pending := none }.insertAt k.place .key
  let l ← get
  if !l.inFlow && l.isDeeper k.column then
    modify fun l => (l.openBlock k.column).insertAt k.place .blockMappingStart
  allowKey false

def value : Lexing Unit := do
  match (← get).pending with
  | some k => confirmKey k
  | none => do
    openHere ':' .blockMappingStart
    allowKey (!(← get).inFlow)
  mark 1 .value

/-- A token that may be a key and that no key may follow at once. -/
def keyToken (x : Scan Token) : Lexing Unit := do
  change Lexer.saveKey
  allowKey false
  emit (← scan x)

def scalarToken (plain : Bool) (chars : List Char) : Token := .scalar plain (String.ofList chars)

def block (folded : Bool) : Lexing Unit := do
  allowKey true
  change Lexer.dropKey
  let least := max 1 (← get).scalarIndent
  emit (scalarToken false (← scan (blockScalar folded least)))

def quoted (quote : Char) : Lexing Unit :=
  keyToken do return scalarToken false (← quotedScalar quote)

def plain : Lexing Unit := do
  change Lexer.saveKey
  let l ← get
  let text ← scan (plainScalar l.inFlow l.scalarIndent)
  allowKey text.newLine
  emit (scalarToken true text.chars)

def aliasToken : Lexing Unit := keyToken do return .aliasOf (← anchorName)

def anchorToken : Lexing Unit := keyToken do return .anchor (← anchorName)

/-- The length of the white space and the comments before the next token. -/
def gapLength : Bool → List Char → Nat
  | _, [] => 0
  | true, c :: cs => gapLength (!isBreak c) cs + 1
  | false, c :: cs =>
    if c == '#' then gapLength true cs + 1
    else if isSpace c || isBreak c then gapLength false cs + 1
    else 0

/-- A new line outside of brackets may start with a key. -/
def gap : Lexing Unit := do
  let start := (← get).cursor
  scan (Scan.forward (gapLength false start.rest))
  let l ← get
  if l.cursor.line != start.line && !l.inFlow then allowKey true

/-- The characters with a meaning of their own. -/
def marks : List Char := "-?:,[]\x7b\x7d#&*!|>'\x22%@\x60".toList

def canStartPlain (inFlow : Bool) (c : Char) (next : Option Char) : Bool :=
  !(endsMark (some c) || c ∈ marks)
    || (!endsMark next && (c == '-' || (!inFlow && (c == '?' || c == ':'))))

def isDocumentMark (c : Char) (cursor : Cursor) : Bool :=
  cursor.atSeparator && cursor.rest.head? == some c

/-- A mark of its own inside brackets, and elsewhere only before white space. -/
def isMark (inFlow : Bool) (next : Option Char) : Bool := inFlow || endsMark next

def token (c : Char) (next : Option Char) (l : Lexer) : Lexing Unit :=
  if c == '%' && l.cursor.column == 0 then directive
  else if isDocumentMark '-' l.cursor then separator .documentStart
  else if isDocumentMark '.' l.cursor then separator .documentEnd
  else if c == '[' then openFlow .flowSequenceStart
  else if c == '{' then openFlow .flowMappingStart
  else if c == ']' then closeFlow .flowSequenceEnd
  else if c == '}' then closeFlow .flowMappingEnd
  else if c == ',' then flowEntry
  else if c == '-' && endsMark next then blockEntry
  else if c == '?' && isMark l.inFlow next then explicitKey
  else if c == ':' && isMark l.inFlow next then value
  else if c == '*' then aliasToken
  else if c == '&' then anchorToken
  else if c == '!' then keyToken tag
  else if c == '|' && !l.inFlow then block false
  else if c == '>' && !l.inFlow then block true
  else if isQuote c then quoted c
  else if canStartPlain l.inFlow c next then plain
  else throw (.noToken c)

def finish : Lexing Unit := do
  modify Lexer.unwindAll
  change Lexer.dropKey

/-- Read the gap and the token that follow. Tells whether the text goes on. -/
def step : Lexing Bool := do
  gap
  change Lexer.dropStale
  modify fun l => l.unwind l.cursor.column
  let l ← get
  match l.cursor.rest with
  | [] => do
    finish
    return false
  | c :: cs => do
    token c cs.head? l
    return true

end Lexing

/-- The tokens of a text, up to its end or to its first flaw. -/
structure TokenRun where
  tokens : List Token
  flaw : Option Flaw := none

namespace Lexer

/-- The tokens before the first that may still turn out to be a key. -/
def settled (l : Lexer) : List Token :=
  let keys := ((l.pending :: l.outerKeys).filterMap id).filter (!isStale l.cursor ·)
  let place := (keys.map (·.place)).foldl min l.count
  (l.tokens.drop (l.count - place)).reverse

/-- The tokens from here on. Those before a flaw are known as far as they are settled. -/
def run : Nat → Lexer → TokenRun
  | 0, l => ⟨l.tokens.reverse, none⟩
  | fuel + 1, l =>
    match Lexing.step l with
    | .error flaw => ⟨l.settled, some flaw⟩
    | .ok (true, next) => run fuel next
    | .ok (false, next) => ⟨next.tokens.reverse, none⟩

end Lexer

/-- Whether a text may hold a character. It may hold no halves. -/
def isPrintable (n : Nat) : Bool :=
  n == 0x09 || n == 0x0a || n == 0x0d || n == 0x85 || (0x20 ≤ n && n ≤ 0x7e) ||
    (0xa0 ≤ n && n ≤ 0xfffd && !Text.isHalf n) || 0x10000 ≤ n

/-- The text with its line breaks as line feeds. -/
def unified : List Char → List Char
  | [] => []
  | '\r' :: '\n' :: cs => '\n' :: unified cs
  | c :: cs => (if c == '\r' || c == '\u0085' then '\n' else c) :: unified cs

def withoutByteOrderMark : List Char → List Char
  | '\ufeff' :: cs => cs
  | cs => cs

namespace TokenRun

def ofChars (chars : List Char) : TokenRun :=
  match (Text.codes chars).find? (!isPrintable ·) with
  | some code => ⟨[], some (.unprintable code)⟩
  | none =>
    let rest := withoutByteOrderMark (unified chars)
    Lexer.run (rest.length + 1) { cursor := { rest, size := rest.length } }

/-- The tokens of a text. -/
def ofText (text : String) : TokenRun := ofChars text.toList

end TokenRun

end FluentKotlin.Yaml
