import FluentKotlin.Text.Blank
import FluentKotlin.Text.Lower
import FluentKotlin.Text.Digit
import FluentKotlin.Yaml.ScalarError

/-! # Numbers from text

An integer has its base in front, and a number may be written in parts between colons, which are
digits to the base sixty. Underscores are left out, digits may be those of any script, and white
space may stand around them.
-/

namespace FluentKotlin.Yaml

/-- The sign in front, and what follows it. -/
def signed : List Char → Bool × List Char
  | '-' :: cs => (true, cs)
  | '+' :: cs => (false, cs)
  | cs => (false, cs)

def negated (negative : Bool) (n : Nat) : Int := if negative then -(n : Int) else n

def dropUnderscores (cs : List Char) : List Char := cs.filter (· != '_')

/-- The number that decimal digits write. -/
def digitsValue (cs : List Char) : Nat := (Text.numberOf? 10 cs).getD 0

/-- White space that may stand around a number. -/
def isMargin (c : Char) : Bool := c ∈ [' ', '\t', '\n', '\x0b', '\x0c', '\r']

def trimMargin (cs : List Char) : List Char :=
  ((cs.dropWhile isMargin).reverse.dropWhile isMargin).reverse

/-- A character of a number as one of ASCII. No number holds a question mark. -/
def asciiChar (c : Char) : Char :=
  if c.toNat < 127 then c
  else if Text.isBlank c then ' '
  else ((Text.decimalDigit? c).map Nat.digitChar).getD '?'

/-- What is left of the text of a number without its margins. -/
def numeral (cs : List Char) : List Char := trimMargin (cs.map asciiChar)

def baseLetter? : Nat → Option Char
  | 2 => some 'b'
  | 8 => some 'o'
  | 16 => some 'x'
  | _ => none

/-- The digits after a base that may stand in front of them. -/
def withoutBase (base : Nat) : List Char → List Char
  | '0' :: c :: cs => if baseLetter? base == some c.toLower then cs else '0' :: c :: cs
  | cs => cs

/-- The number that digits write, unless they are too many or no digits. -/
def natOfDigits (base : Nat) (digits : List Char) : Except ScalarError (Option Nat) :=
  let run := digits.takeWhile fun c => (Text.digitValue? base c).isSome
  if base = 10 ∧ maxDigits < run.length then .error (.longInteger run.length)
  else .ok (if digits.isEmpty then none else Text.numberOf? base digits)

/-- The integer that a text writes to a base. -/
def integer (base : Nat) (cs : List Char) : Except ScalarError Int := do
  let (negative, digits) := signed (numeral cs)
  match ← natOfDigits base (withoutBase base digits) with
  | some n => return negated negative n
  | none => throw (.notInteger base (String.ofList cs))

/-- The integer whose digits to the base sixty are given. -/
def sixties (parts : List Int) : Int := parts.foldl (fun n part => n * 60 + part) 0

def sexagesimal (cs : List Char) : Except ScalarError Int := do
  let parts ← (cs.splitOn ':').mapM (integer 10)
  return sixties parts

/-- An integer without its sign. A zero in front of other digits makes them octal. -/
def unsignedInteger (cs : List Char) : Except ScalarError Int :=
  match cs with
  | [] => .error .noNumber
  | ['0'] => .ok 0
  | '0' :: 'b' :: digits => integer 2 digits
  | '0' :: 'x' :: digits => integer 16 digits
  | '0' :: _ => integer 8 cs
  | _ => if cs.contains ':' then sexagesimal cs else integer 10 cs

def integerOf (text : String) : Except ScalarError Int := do
  let cs := dropUnderscores text.toList
  let (negative, digits) := signed cs
  let n ← unsignedInteger digits
  return if negative then -n else n

def infinity : Float := 1.0 / 0.0

def notANumber : Float := 0.0 / 0.0

/-- The double next to a decimal number. -/
def decimalFloat (whole part : List Char) (exponent : Int) : Float :=
  let e := exponent - part.length
  Float.ofScientific (digitsValue (whole ++ part)) (decide (e < 0)) e.natAbs

/-- The power of ten after the letter e. -/
def exponent? : List Char → Option Int
  | [] => some 0
  | 'e' :: cs =>
    let (negative, digits) := signed cs
    if !digits.isEmpty && digits.all Char.isDigit then some (negated negative (digitsValue digits))
    else none
  | _ => none

/-- A decimal number in small letters, with a point and digits on at least one side of it. -/
def pointFloat? (cs : List Char) : Option Float :=
  let whole := cs.takeWhile Char.isDigit
  let after := cs.drop whole.length
  let part := if after.head? == some '.' then (after.drop 1).takeWhile Char.isDigit else []
  let power := if after.head? == some '.' then after.drop (part.length + 1) else after
  if whole.isEmpty && part.isEmpty then none
  else (exponent? power).map (decimalFloat whole part)

def unsignedFloat? (cs : List Char) : Option Float :=
  if cs = "inf".toList ∨ cs = "infinity".toList then some infinity
  else if cs = "nan".toList then some notANumber
  else pointFloat? cs

def withSign (negative : Bool) (x : Float) : Float := if negative then -x else x

/-- The double next to the number that a text in small letters writes. -/
def float (cs : List Char) : Except ScalarError Float :=
  let (negative, digits) := signed (numeral cs)
  match unsignedFloat? digits with
  | some x => .ok (withSign negative x)
  | none => .error (.notNumber (String.ofList cs))

/-- A sum of doubles that count multiples of the powers of sixty from one on. -/
def sumSixties : Float → Nat → List Float → Except ScalarError Float
  | sum, _, [] => .ok sum
  | sum, power, x :: xs =>
    let factor := Float.ofNat power
    if factor.isInf then .error .largeDigit else sumSixties (sum + x * factor) (power * 60) xs

def sexagesimalFloat (cs : List Char) : Except ScalarError Float := do
  let parts ← (cs.splitOn ':').mapM float
  sumSixties 0.0 1 parts.reverse

/-- A number in small letters without its sign. -/
def unsignedNumber (cs : List Char) : Except ScalarError Float :=
  if cs = ".inf".toList then .ok infinity
  else if cs = ".nan".toList then .ok notANumber
  else if cs.contains ':' then sexagesimalFloat cs
  else float cs

def numberOf (text : String) : Except ScalarError Float :=
  match (Text.lower (String.ofList (dropUnderscores text.toList))).toList with
  | [] => .error .noNumber
  | cs => do
    let (negative, digits) := signed cs
    let x ← unsignedNumber digits
    return withSign negative x

end FluentKotlin.Yaml
