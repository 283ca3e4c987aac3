import FluentKotlin.Value.Basic
import FluentKotlin.Decimal.Written
import FluentKotlin.Text.Quoted

/-! # Values as text

A value that is a text is written as it is, and every other value as it is shown inside a list or
a mapping, where texts stand between quotes. A collection that contains itself is shown once, and
inside of it only its brackets are.
-/

namespace FluentKotlin

def Date.written (d : Date) : String :=
  padded 4 d.year ++ "-" ++ padded 2 d.month ++ "-" ++ padded 2 d.day

def Date.numbers (d : Date) : List Nat := [d.year, d.month, d.day]

def numbersWritten (ns : List Nat) : String := String.intercalate ", " (ns.map writtenNat)

def Date.quoted (d : Date) : String := "datetime.date(" ++ numbersWritten d.numbers ++ ")"

namespace Moment

def fractionWritten (microsecond : Nat) : String :=
  if microsecond = 0 then "" else "." ++ padded 6 microsecond

/-- Hours and minutes after a sign. -/
def aheadWritten (minutes : Int) : String :=
  (if minutes < 0 then "-" else "+") ++ padded 2 (minutes.natAbs / 60) ++ ":"
    ++ padded 2 (minutes.natAbs % 60)

def written (m : Moment) : String :=
  m.date.written ++ " " ++ padded 2 m.hour ++ ":" ++ padded 2 m.minute ++ ":"
    ++ padded 2 m.second ++ fractionWritten m.microsecond
    ++ (m.ahead.map aheadWritten).getD ""

/-- The numbers of a moment. Seconds and microseconds at the end are left out if zero. -/
def numbers (m : Moment) : List Nat :=
  let rest := if m.microsecond = 0 then (if m.second = 0 then [] else [m.second])
    else [m.second, m.microsecond]
  m.date.numbers ++ [m.hour, m.minute] ++ rest

def zoneQuoted (minutes : Int) : String :=
  if minutes = 0 then "datetime.timezone.utc"
  else "datetime.timezone(" ++ differenceShown minutes ++ ")"

def quoted (m : Moment) : String :=
  let zone := (m.ahead.map fun minutes => ", tzinfo=" ++ zoneQuoted minutes).getD ""
  "datetime.datetime(" ++ numbersWritten m.numbers ++ zone ++ ")"

end Moment

/-- Bytes are shown like a text of ASCII, and all others by number. -/
def escapeByte (quote : Char) (b : UInt8) : List Char :=
  if b < 0x7f then Text.escapeChar quote (Char.ofNat b.toNat) else Text.escapeByNumber b.toNat

def quotedBytes (bs : List UInt8) : String :=
  let quote := Text.quoteFor (bs.map fun b => Char.ofNat b.toNat)
  String.ofList ('b' :: quote :: bs.flatMap (escapeByte quote) ++ [quote])

def writtenBool (b : Bool) : String := if b then "True" else "False"

def nothing : String := "None"

/-- Why a value has no text. -/
inductive WritingError where
  | longInteger
  deriving DecidableEq, Repr, Inhabited

def WritingError.message : WritingError → String
  | longInteger => digitLimitText ""

namespace Scalar

def written : Scalar → String
  | null => nothing
  | bool b => writtenBool b
  | int n => writtenInt n
  | float x => Decimal.written x
  | text s => s
  | date d => d.written
  | moment m => m.written
  | bytes bs => quotedBytes bs

def quoted : Scalar → String
  | text s => Text.quoted s
  | date d => d.quoted
  | moment m => m.quoted
  | s => s.written

def isLong : Scalar → Bool
  | int n => longBound ≤ n.natAbs
  | _ => false

end Scalar

namespace Value

def inBraces (parts : List String) : String :=
  "\x7b" ++ String.intercalate ", " parts ++ "\x7d"

def quotedSet (members : List Scalar) : String :=
  if members.isEmpty then "set()" else inBraces (members.map Scalar.quoted)

/-- What stands for a collection inside of itself. -/
def brackets : Value → String
  | .mapping _ => "\x7b...\x7d"
  | _ => "[...]"

/-- The brackets of the collections around a place, by name. -/
abbrev Around := List (Nat × String)

mutual

def quotedIn (around : Around) : Value → String
  | .scalar s => s.quoted
  | .list items => "[" ++ String.intercalate ", " (quotedItems around items) ++ "]"
  | .mapping entries => inBraces (quotedEntries around entries)
  | .pair a b => "(" ++ a.quotedIn around ++ ", " ++ b.quotedIn around ++ ")"
  | .set members => quotedSet members
  | .named n v =>
    match around.lookup n with
    | some brackets => brackets
    | none => v.quotedIn ((n, v.brackets) :: around)
  | .again n => (around.lookup n).getD "[...]"

def quotedItems (around : Around) : List Value → List String
  | [] => []
  | v :: vs => v.quotedIn around :: quotedItems around vs

def quotedEntries (around : Around) : List (Scalar × Value) → List String
  | [] => []
  | (k, v) :: es => (k.quoted ++ ": " ++ v.quotedIn around) :: quotedEntries around es

end

def quoted (v : Value) : String := v.quotedIn []

def written : Value → String
  | .scalar s => s.written
  | v => v.quoted

mutual

/-- Whether an integer in the value has too many digits to be written. -/
def hasLong : Value → Bool
  | .scalar s => s.isLong
  | .list items => anyLong items
  | .mapping entries => anyLongEntry entries
  | .pair a b => a.hasLong || b.hasLong
  | .set members => members.any Scalar.isLong
  | .named _ v => v.hasLong
  | .again _ => false

def anyLong : List Value → Bool
  | [] => false
  | v :: vs => v.hasLong || anyLong vs

def anyLongEntry : List (Scalar × Value) → Bool
  | [] => false
  | (k, v) :: es => k.isLong || v.hasLong || anyLongEntry es

end

/-- The text of a value that has one. -/
def shown (v : Value) : Except WritingError String :=
  if v.hasLong then .error .longInteger else .ok v.written

end Value

end FluentKotlin
