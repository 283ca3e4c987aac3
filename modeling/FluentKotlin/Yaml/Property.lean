import FluentKotlin.Yaml.Quoted

/-! # Names, tags and directives

An anchor and an alias have a name of letters, digits, dashes and underscores. A tag is a handle
with a suffix, or a verbatim text between angle brackets. A directive stands on a line of its own.
-/

namespace FluentKotlin.Yaml

def isNameChar (c : Char) : Bool := c.isAlphanum || c == '-' || c == '_'

def nameEnds : List Char := ['?', ':', ',', ']', '}', '%', '@', '\x60']

def endsAnchor (next : Option Char) : Bool := endsMark next || next.any (· ∈ nameEnds)

/-- The name after the mark of an anchor or an alias. -/
def anchorName : Scan String := do
  Scan.forward 1
  let name ← Scan.run isNameChar
  Scan.demand .badAnchor (!name.isEmpty && endsAnchor (← Scan.peek))
  return String.ofList name

def isTagChar (c : Char) : Bool :=
  c.isAlphanum || c ∈ "-;/?:@&=+$,_.!~*'()[]%".toList

/-- The bytes of a tag. A percent sign with two digits stands for one, and every other character
for its own. -/
def tagBytes : List Char → Option (List UInt8)
  | [] => some []
  | '%' :: a :: b :: cs => do
    let n ← Text.numberOf? 16 [a, b]
    return UInt8.ofNat n :: (← tagBytes cs)
  | '%' :: _ => none
  | c :: cs => return UInt8.ofNat c.toNat :: (← tagBytes cs)

def tagOfChars? (cs : List Char) : Option String := do
  let text ← String.fromUTF8? (ByteArray.mk (← tagBytes cs).toArray)
  return String.ofList (Text.ofCodes (text.toList.map Char.toNat))

def tagText (flaw : Flaw) : Scan String := do
  let chars ← Scan.run isTagChar
  Scan.demand flaw (!chars.isEmpty)
  match tagOfChars? chars with
  | some text => return text
  | none => throw flaw

/-- A handle is an exclamation mark, or a name between two of them. -/
def tagHandle (flaw : Flaw) : Scan String := do
  Scan.demand flaw ((← Scan.peek) == some '!')
  Scan.forward 1
  if (← Scan.peek) == some ' ' then return "!"
  else
    let name ← Scan.run isNameChar
    Scan.demand flaw ((← Scan.peek) == some '!')
    Scan.forward 1
    return "!" ++ String.ofList name ++ "!"

/-- Whether a tag goes on to a second exclamation mark. -/
def hasHandle (cs : List Char) : Bool :=
  (cs.takeWhile fun c => !endsName (some c)).any (· == '!')

def verbatimTag : Scan Token := do
  Scan.forward 1
  let text ← tagText .badTag
  Scan.demand .badTag ((← Scan.peek) == some '>')
  Scan.forward 1
  return .tag none text

def shortTag : Scan Token := do
  Scan.forward 1
  return .tag (some "!") (← tagText .badTag)

def handleTag : Scan Token := do
  let handle ← tagHandle .badTag
  return .tag (some handle) (← tagText .badTag)

def tag : Scan Token := do
  let after := (← get).rest.drop 1
  let token ←
    if after.head? == some '<' then do
      Scan.forward 1
      verbatimTag
    else if endsMark after.head? then do
      Scan.forward 1
      pure (.tag none "!")
    else if hasHandle after then handleTag
    else shortTag
  Scan.demand .badTag (endsName (← Scan.peek))
  return token

def number : Scan Nat := do
  let digits ← Scan.run Char.isDigit
  Scan.demand .badDirective (!digits.isEmpty)
  Scan.demand (.scalar (.longInteger digits.length)) (digits.length ≤ maxDigits)
  return (Text.numberOf? 10 digits).getD 0

def versionDirective : Scan Directive := do
  let _ ← Scan.run isSpace
  let major ← number
  Scan.demand .badDirective ((← Scan.peek) == some '.')
  Scan.forward 1
  let _ ← number
  return .version major

def tagDirective : Scan Directive := do
  let _ ← Scan.run isSpace
  let handle ← tagHandle .badDirective
  Scan.demand .badDirective ((← Scan.peek) == some ' ')
  let _ ← Scan.run isSpace
  return .tagHandle handle (← tagText .badDirective)

def otherDirective : Scan Directive := do
  let _ ← Scan.run (!isBreak ·)
  return .other

def directiveContent (name : String) : Scan Directive :=
  if name == "YAML" then versionDirective
  else if name == "TAG" then tagDirective
  else otherDirective

def directive : Scan Token := do
  Scan.forward 1
  let name ← Scan.run isNameChar
  Scan.demand .badDirective (!name.isEmpty && endsName (← Scan.peek))
  let content ← directiveContent (String.ofList name)
  Scan.demand .badDirective (endsName (← Scan.peek))
  Scan.restOfLine .badDirective
  return .directive content

end FluentKotlin.Yaml
