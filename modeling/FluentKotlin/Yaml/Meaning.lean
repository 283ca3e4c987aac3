import FluentKotlin.Yaml.Stamp
import FluentKotlin.Yaml.Tag

/-! # What plain scalars mean

A scalar without quotes is a truth value, a number, a time or nothing if it is written like one,
and else a text. Numbers may have underscores, and numbers between colons are digits to the base
sixty. A line feed at the end does not count, but a text that starts with one is a text.
-/

namespace FluentKotlin.Yaml

def trueWords : List String := ["yes", "Yes", "YES", "true", "True", "TRUE", "on", "On", "ON"]

def falseWords : List String :=
  ["no", "No", "NO", "false", "False", "FALSE", "off", "Off", "OFF"]

def nullWords : List String := ["", "~", "null", "Null", "NULL"]

def infinityWords : List String := [".inf", ".Inf", ".INF"]

def nanWords : List String := [".nan", ".NaN", ".NAN"]

/-- Marks of the notation itself, of which no value comes. -/
def markWords : List String := ["!", "&", "*"]

def isDigitOf (base : Nat) (c : Char) : Bool := c == '_' || (Text.digitValue? base c).isSome

def isDigits (base : Nat) (cs : List Char) : Bool := !cs.isEmpty && cs.all (isDigitOf base)

/-- Whether digits follow one that is there. -/
def isNumeral (cs : List Char) : Bool :=
  cs.head?.any Char.isDigit && isDigits 10 cs

/-- A digit to the base sixty. -/
def isSixtieth : List Char → Bool
  | [a] => a.isDigit
  | [a, b] => a.isDigit && a ≤ '5' && b.isDigit
  | _ => false

/-- Digits to the base sixty after a number of any length. -/
def areSixtieths (cs : List Char) : Bool :=
  match cs.splitOn ':' with
  | first :: part :: parts => isNumeral first && (part :: parts).all isSixtieth
  | _ => false

def isInteger (cs : List Char) : Bool :=
  match (signed cs).2 with
  | ['0'] => true
  | '0' :: 'b' :: digits => isDigits 2 digits
  | '0' :: 'x' :: digits => isDigits 16 digits
  | '0' :: digits => isDigits 8 digits
  | digits => isNumeral digits || areSixtieths digits

/-- A power of ten after the letter e. It has a sign. -/
def isPower : List Char → Bool
  | [] => true
  | e :: sign :: digits =>
    (e == 'e' || e == 'E') && (sign == '+' || sign == '-') && !digits.isEmpty
      && digits.all Char.isDigit
  | _ => false

/-- A number with a point, where digits may be missing on one side and a sign needs those before. -/
def isPointNumber (cs : List Char) : Bool :=
  let whole := (signed cs).2.takeWhile (· != '.')
  let after := (signed cs).2.drop whole.length
  let part := (after.drop 1).takeWhile (isDigitOf 10)
  let isWritten := isNumeral whole || (cs.head? == some '.' && isNumeral part)
  isWritten && after.head? == some '.' && isPower (after.drop (part.length + 1))

/-- Digits to the base sixty whose last has a point. -/
def isSexagesimalNumber (cs : List Char) : Bool :=
  let whole := (signed cs).2.takeWhile (· != '.')
  let after := (signed cs).2.drop whole.length
  areSixtieths whole && after.head? == some '.' && (after.drop 1).all (isDigitOf 10)

def isNumber (cs : List Char) : Bool :=
  String.ofList (signed cs).2 ∈ infinityWords || String.ofList cs ∈ nanWords
    || isPointNumber cs || isSexagesimalNumber cs

/-- A date alone has two digits for the month and for the day. -/
def isTime (cs : List Char) : Bool :=
  (Stamp.ofChars? cs).any fun s => s.clock.isSome || cs.length == 10

def wordTag? (text : String) : Option Tag :=
  if text ∈ trueWords ∨ text ∈ falseWords then some .bool
  else if text ∈ nullWords then some .null
  else if text = "<<" then some .merge
  else if text = "=" then some .default
  else if text ∈ markWords then some (.other text)
  else none

/-- The tag of the kind of value that a text is written like. -/
def Tag.ofText (text : String) : Tag :=
  let cs := withoutFinalBreak text.toList
  match if text.toList.head? == some '\n' then some .text else wordTag? (String.ofList cs) with
  | some tag => tag
  | none =>
    if isInteger cs then .int
    else if isNumber cs then .float
    else if isTime cs then .time
    else .text

end FluentKotlin.Yaml
