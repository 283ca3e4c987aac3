import FluentKotlin.Decimal.Shortest

/-! # Doubles as text

A double is written with the digits of its shortest decimal. The point is set by position from
`0.0001` up to below `10 ^ 16`, and other numbers have one digit before the point and an
exponent of at least two digits.
-/

namespace FluentKotlin.Decimal

def significantDigits (d : Scaled) : List Char :=
  match ((Nat.toDigits 10 d.digits).reverse.dropWhile (· == '0')).reverse with
  | [] => ['0']
  | ds => ds

/-- The number of digits before the point. -/
def pointPosition (d : Scaled) : Int :=
  if d.digits = 0 then 1 else digitCount d.digits + d.exponent

def positional (ds : List Char) (point : Int) : List Char :=
  if point ≤ 0 then '0' :: '.' :: List.replicate (-point).toNat '0' ++ ds
  else
    let whole := point.toNat
    if ds.length ≤ whole then ds ++ List.replicate (whole - ds.length) '0' ++ ['.', '0']
    else ds.take whole ++ '.' :: ds.drop whole

def exponential (ds : List Char) (point : Int) : List Char :=
  let e := point - 1
  let digits := Nat.toDigits 10 e.natAbs
  let padded := if digits.length < 2 then '0' :: digits else digits
  let mantissa := match ds with
    | [d] => [d]
    | d :: rest => d :: '.' :: rest
    | [] => ['0']
  mantissa ++ 'e' :: (if e < 0 then '-' else '+') :: padded

def magnitudeText : Magnitude → List Char
  | .notANumber => ['n', 'a', 'n']
  | .infinite => ['i', 'n', 'f']
  | .finite b =>
    let d := shortest b
    let ds := significantDigits d
    let point := pointPosition d
    if -4 < point && point ≤ 16 then positional ds point else exponential ds point

def written (x : Float) : String :=
  let bits := x.toBits.toNat
  let m := magnitude bits
  let signed := isNegative bits && m != .notANumber
  String.ofList ((if signed then ['-'] else []) ++ magnitudeText m)

end FluentKotlin.Decimal
