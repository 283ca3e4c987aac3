import FluentKotlin.Value.Basic
import FluentKotlin.Yaml.Number

/-! # Time stamps

A time stamp is a date, which a time of day may follow after a letter or white space. The time may
have a fraction of a second, and a zone as a letter or as the time that its clock is ahead.
-/

namespace FluentKotlin.Yaml

structure Clock where
  hour : Nat
  minute : Nat
  second : Nat
  /-- The digits after the point. -/
  fraction : List Char
  /-- The minutes that the clock is ahead of universal time. -/
  ahead : Option Int

structure Stamp where
  year : Nat
  month : Nat
  day : Nat
  clock : Option Clock

namespace Stamp

/-- The number of `least` up to `most` digits in front, and what follows it. -/
def digits? (least most : Nat) (cs : List Char) : Option (Nat × List Char) :=
  let digits := (cs.take most).takeWhile Char.isDigit
  if digits.length < least then none else some (digitsValue digits, cs.drop digits.length)

/-- What follows a mark. -/
def after? (mark : Char) : List Char → Option (List Char)
  | c :: cs => if c = mark then some cs else none
  | [] => none

def isGap (c : Char) : Bool := c == ' ' || c == '\t'

/-- What follows the letter or the white space between a date and a time. -/
def afterGap? : List Char → Option (List Char)
  | c :: cs =>
    if c = 'T' ∨ c = 't' then some cs else if isGap c then some (cs.dropWhile isGap) else none
  | [] => none

/-- The time that a zone is ahead, hours with minutes after them where they are given. -/
def ahead? (negative : Bool) (cs : List Char) : Option Int := do
  let (hours, rest) ← digits? 1 2 cs
  match rest with
  | [] => return negated negative (hours * 60)
  | rest => do
    let (minutes, rest) ← digits? 2 2 (← after? ':' rest)
    if rest.isEmpty then return negated negative (hours * 60 + minutes) else none

/-- The zone at the end of a time, none where there is none. -/
def zone? (cs : List Char) : Option (Option Int) :=
  match cs, cs.dropWhile isGap with
  | [], _ => some none
  | _, ['Z'] => some (some 0)
  | _, '+' :: rest => (ahead? false rest).map some
  | _, '-' :: rest => (ahead? true rest).map some
  | _, _ => none

def clock? (cs : List Char) : Option Clock := do
  let (hour, rest) ← digits? 1 2 cs
  let (minute, rest) ← digits? 2 2 (← after? ':' rest)
  let (second, rest) ← digits? 2 2 (← after? ':' rest)
  let fraction := ((after? '.' rest).getD []).takeWhile Char.isDigit
  let rest := if (after? '.' rest).isSome then rest.drop (fraction.length + 1) else rest
  return ⟨hour, minute, second, fraction, ← zone? rest⟩

def ofChars? (cs : List Char) : Option Stamp := do
  let (year, rest) ← digits? 4 4 cs
  let (month, rest) ← digits? 1 2 (← after? '-' rest)
  let (day, rest) ← digits? 1 2 (← after? '-' rest)
  if rest.isEmpty then return ⟨year, month, day, none⟩
  else return ⟨year, month, day, some (← clock? (← afterGap? rest))⟩

/-- Six digits after the point count, and missing ones are zeros. -/
def microseconds (fraction : List Char) : Nat :=
  let digits := fraction.take 6
  digitsValue digits * Nat.pow 10 (6 - digits.length)

def value (s : Stamp) : Except CalendarError Scalar :=
  match s.clock with
  | none => (Date.ofNumbers s.year s.month s.day).map .date
  | some c =>
    (Moment.ofNumbers s.year s.month s.day c.hour c.minute c.second (microseconds c.fraction)
      c.ahead).map .moment

end Stamp

/-- A text may end in a line feed that does not count. -/
def withoutFinalBreak (cs : List Char) : List Char :=
  if cs.getLast? == some '\n' then cs.dropLast else cs

def timeOf (text : String) : Except ScalarError Scalar :=
  match Stamp.ofChars? (withoutFinalBreak text.toList) with
  | some s => s.value.mapError .calendar
  | none => .error .notTime

end FluentKotlin.Yaml
