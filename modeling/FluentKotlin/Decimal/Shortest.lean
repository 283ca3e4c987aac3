/-! # Shortest decimals

A double stands for every real number that rounds to it. Of the decimals among those the one with
the fewest digits is chosen, and of several such the nearest to the double.
-/

namespace FluentKotlin.Decimal

/-- The number `significand * 2 ^ exponent`. -/
structure Binary where
  significand : Nat
  exponent : Int
  deriving DecidableEq, Repr

/-- The number `digits * 10 ^ exponent`. -/
structure Scaled where
  digits : Nat
  exponent : Int
  deriving DecidableEq, Repr

inductive Magnitude where
  | finite (value : Binary)
  | infinite
  | notANumber
  deriving DecidableEq, Repr

def fractionBits (bits : Nat) : Nat := bits % Nat.pow 2 52

def exponentBits (bits : Nat) : Nat := bits / Nat.pow 2 52 % Nat.pow 2 11

def isNegative (bits : Nat) : Bool := bits / Nat.pow 2 63 % 2 == 1

def magnitude (bits : Nat) : Magnitude :=
  let e := exponentBits bits
  let f := fractionBits bits
  if e = 2047 then if f = 0 then .infinite else .notANumber
  else if e = 0 then .finite ⟨f, -1074⟩
  else .finite ⟨f + Nat.pow 2 52, (e : Int) - 1075⟩

/-- A fraction of natural numbers. -/
structure Ratio where
  num : Nat
  den : Nat
  deriving Repr

namespace Ratio

def ofBinary (b : Binary) : Ratio :=
  ⟨b.significand * Nat.pow 2 b.exponent.toNat, Nat.pow 2 (-b.exponent).toNat⟩

def ofScaled (d : Scaled) : Ratio :=
  ⟨d.digits * Nat.pow 10 d.exponent.toNat, Nat.pow 10 (-d.exponent).toNat⟩

def lt (a b : Ratio) : Bool := a.num * b.den < b.num * a.den

def le (a b : Ratio) : Bool := a.num * b.den ≤ b.num * a.den

/-- The distance between two fractions over their common denominator. -/
def distance (a b : Ratio) : Nat :=
  (a.num * b.den - b.num * a.den) + (b.num * a.den - a.num * b.den)

end Ratio

def digitCount (n : Nat) : Nat := (Nat.toDigits 10 n).length

/-- The least `p` such that the positive fraction is below `10 ^ p`. -/
def decimalPoint (v : Ratio) : Int :=
  if v.den ≤ v.num then digitCount (v.num / v.den)
  else
    let r := (v.den + v.num - 1) / v.num
    if r ≤ 1 then 1 else 1 - (digitCount (r - 1) : Int)

/-- Whether the decimal rounds to the double. The ends of the interval belong to it when the
significand is even, and below a power of two the interval is half as wide. -/
def roundsTo (b : Binary) (d : Scaled) : Bool :=
  let narrow := b.significand = Nat.pow 2 52 && decide (-1074 < b.exponent)
  let low := Ratio.ofBinary ⟨4 * b.significand - (if narrow then 1 else 2), b.exponent - 2⟩
  let high := Ratio.ofBinary ⟨4 * b.significand + 2, b.exponent - 2⟩
  let v := Ratio.ofScaled d
  if b.significand % 2 = 0 then low.le v && v.le high else low.lt v && v.lt high

/-- The neighbours of a fraction on the grid of multiples of `10 ^ exponent`. -/
def neighbours (v : Ratio) (exponent : Int) : Scaled × Scaled :=
  let n := v.num * Nat.pow 10 (-exponent).toNat / (v.den * Nat.pow 10 exponent.toNat)
  (⟨n, exponent⟩, ⟨n + 1, exponent⟩)

def nearer (v : Ratio) (below above : Scaled) : Scaled :=
  let down := v.distance (.ofScaled below)
  let up := v.distance (.ofScaled above)
  if down < up then below
  else if up < down then above
  else if below.digits % 2 = 0 then below else above

/-- The decimal with `count` digits that rounds to the double, if there is one. -/
def withDigits (b : Binary) (count : Nat) : Option Scaled :=
  let v := Ratio.ofBinary b
  let (below, above) := neighbours v (decimalPoint v - count)
  match roundsTo b below, roundsTo b above with
  | true, true => some (nearer v below above)
  | true, false => some below
  | false, true => some above
  | false, false => none

/-- Seventeen digits are always enough. -/
def shortest (b : Binary) : Scaled :=
  if b.significand = 0 then ⟨0, 0⟩
  else ((List.range 17).findSome? fun i => withDigits b (i + 1)).getD ⟨0, 0⟩

end FluentKotlin.Decimal
