/-! # Bytes from text

Every character of an alphabet of sixty-four stands for six bits, and four of them for three bytes.
Other characters are left out. The last four may be cut short, and equals signs fill them up.
-/

namespace FluentKotlin.Yaml

/-- The six bits of a character. -/
def sextet? (c : Char) : Option Nat :=
  let n := c.toNat
  if 65 ≤ n ∧ n ≤ 90 then some (n - 65)
  else if 97 ≤ n ∧ n ≤ 122 then some (n - 71)
  else if 48 ≤ n ∧ n ≤ 57 then some (n + 4)
  else if c = '+' then some 62
  else if c = '/' then some 63
  else none

/-- The characters of the last four that are read, and the bits of them that are no byte yet. -/
structure Quartet where
  count : Nat := 0
  bits : Nat := 0
  /-- The equals signs at the end. -/
  filled : Nat := 0

namespace Quartet

def add (q : Quartet) (sextet : Nat) : List UInt8 × Quartet :=
  let bits := q.bits * 64 + sextet
  match q.count with
  | 0 => ([], { count := 1, bits })
  | 1 => ([UInt8.ofNat (bits / 16)], { count := 2, bits := bits % 16 })
  | 2 => ([UInt8.ofNat (bits / 4)], { count := 3, bits := bits % 4 })
  | _ => ([UInt8.ofNat bits], {})

/-- Whether an equals sign makes up for all that is missing. -/
def isFull (q : Quartet) : Bool := 2 ≤ q.count && 4 ≤ q.count + q.filled + 1

def fill (q : Quartet) : Quartet := if q.count < 2 then q else { q with filled := q.filled + 1 }

end Quartet

/-- The bytes that characters stand for after those that are read. -/
def bytesAfter (q : Quartet) : List Char → Option (List UInt8)
  | [] => if q.count = 0 then some [] else none
  | c :: cs =>
    if c = '=' then (if q.isFull then some [] else bytesAfter q.fill cs)
    else match sextet? c with
      | none => bytesAfter q cs
      | some sextet =>
        let (bytes, next) := q.add sextet
        (bytesAfter next cs).map (bytes ++ ·)

/-- The bytes of a text of ASCII. -/
def bytesOf? (text : String) : Option (List UInt8) :=
  if text.toList.all (·.toNat < 128) then bytesAfter {} text.toList else none

end FluentKotlin.Yaml
