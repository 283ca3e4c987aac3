import FluentKotlin.Text.Numeral

/-! # The calendar

The days that a year, a month and a day of the month name together, in the calendar of today
extended to all years from one on, and the moments of a day. A moment may be given by the clock of
a zone, and then two moments are the same when universal time is.
-/

namespace FluentKotlin

structure Date where
  year : Nat
  month : Nat
  day : Nat
  deriving DecidableEq, Repr

structure Moment where
  date : Date
  hour : Nat
  minute : Nat
  second : Nat
  microsecond : Nat
  /-- The minutes that the clock of the zone is ahead of universal time. -/
  ahead : Option Int
  deriving DecidableEq, Repr

/-- A number that the calendar or the clock does not have. -/
inductive CalendarError where
  | year
  | month
  | day
  | hour
  | minute
  | second
  | zone (ahead : Int)
  deriving DecidableEq, Repr, Inhabited

def minutesOfDay : Nat := 1440

/-- A difference of times as days and seconds, which are left out where they are zero. -/
def differenceShown (minutes : Int) : String :=
  let days := minutes.fdiv minutesOfDay
  let seconds := minutes.fmod minutesOfDay * 60
  let parts := (if days = 0 then [] else ["days=" ++ writtenInt days])
    ++ (if seconds = 0 then [] else ["seconds=" ++ writtenInt seconds])
  "datetime.timedelta(" ++ (if parts.isEmpty then "0" else String.intercalate ", " parts) ++ ")"

def CalendarError.message : CalendarError → String
  | year => "year 0 is out of range"
  | month => "month must be in 1..12"
  | day => "day is out of range for month"
  | hour => "hour must be in 0..23"
  | minute => "minute must be in 0..59"
  | second => "second must be in 0..59"
  | zone ahead => "offset must be a timedelta strictly between -timedelta(hours=24) and "
      ++ "timedelta(hours=24), not " ++ differenceShown ahead ++ "."

namespace Date

def isLeapYear (year : Nat) : Bool := year % 4 == 0 && (year % 100 != 0 || year % 400 == 0)

def daysIn (year month : Nat) : Nat :=
  if month = 2 then (if isLeapYear year then 29 else 28)
  else if month ∈ [4, 6, 9, 11] then 30
  else 31

def ofNumbers (year month day : Nat) : Except CalendarError Date :=
  if year = 0 then .error .year
  else if month = 0 ∨ 12 < month then .error .month
  else if day = 0 ∨ daysIn year month < day then .error .day
  else .ok ⟨year, month, day⟩

/-- The number of days before a year. -/
def daysBeforeYear (year : Nat) : Nat :=
  let past := year - 1
  past * 365 + past / 4 - past / 100 + past / 400

/-- The number of days up to this one. -/
def number (d : Date) : Nat :=
  let months := (List.range (d.month - 1)).map fun m => daysIn d.year (m + 1)
  daysBeforeYear d.year + months.foldl Nat.add 0 + d.day

end Date

namespace Moment

/-- The minutes and microseconds of universal time, or of the clock where no zone is given. -/
def universal (m : Moment) : Int × Nat :=
  let minutes : Int := (m.date.number * 24 + m.hour) * 60 + m.minute
  (minutes - m.ahead.getD 0, m.second * 1000000 + m.microsecond)

/-- A moment with a zone is never the same as one without. -/
def isSame (m n : Moment) : Bool :=
  m.ahead.isSome == n.ahead.isSome && m.universal == n.universal

def checkZone (ahead : Option Int) : Except CalendarError Unit :=
  match ahead with
  | none => .ok ()
  | some minutes =>
    if minutes.natAbs < minutesOfDay then .ok () else .error (.zone minutes)

def ofNumbers (year month day hour minute second microsecond : Nat) (ahead : Option Int) :
    Except CalendarError Moment := do
  checkZone ahead
  let date ← Date.ofNumbers year month day
  if 23 < hour then throw .hour
  if 59 < minute then throw .minute
  if 59 < second then throw .second
  return ⟨date, hour, minute, second, microsecond, ahead⟩

end Moment

end FluentKotlin
