import FluentKotlin.Text.Code
import FluentKotlin.Text.Printable

/-! # Quoted text

Text is shown between single quotes, or between double quotes where it holds a single quote and
no double one. The quote in use and the backslash are escaped, and characters that are not
printable are written by number. Half of a character is written by its own number.
-/

namespace FluentKotlin.Text

def singleQuote : Char := '\x27'

def doubleQuote : Char := '\x22'

def quoteFor (cs : List Char) : Char :=
  if cs.contains singleQuote && !cs.contains doubleQuote then doubleQuote else singleQuote

/-- At least `width` digits in base sixteen. -/
def hexDigits (width n : Nat) : List Char :=
  let digits := Nat.toDigits 16 n
  List.replicate (width - digits.length) '0' ++ digits

def escapeByNumber (n : Nat) : List Char :=
  if n < 0x100 then '\\' :: 'x' :: hexDigits 2 n
  else if n < 0x10000 then '\\' :: 'u' :: hexDigits 4 n
  else '\\' :: 'U' :: hexDigits 8 n

def escapeChar (quote c : Char) : List Char :=
  if c == quote || c == '\\' then ['\\', c]
  else if c == '\n' then ['\\', 'n']
  else if c == '\r' then ['\\', 'r']
  else if c == '\t' then ['\\', 't']
  else if isPrintable c then [c]
  else escapeByNumber c.toNat

def escapeCode (quote : Char) (code : Nat) : List Char :=
  if isHalf code then escapeByNumber code else escapeChar quote (Char.ofNat code)

def quotedChars (cs : List Char) : List Char :=
  let quote := quoteFor cs
  quote :: (codes cs).flatMap (escapeCode quote) ++ [quote]

def quoted (s : String) : String :=
  String.ofList (quotedChars s.toList)

end FluentKotlin.Text
