import FluentKotlin.Value.Basic

/-! # The order of a set

A set of numbers lists its members by their places in a table, which has more than twice as many
places as the set has members, and at least eight. The residue of a member says where its walk over
the table starts, and it takes the first free place. Any other set keeps the order in which its
members came.
-/

namespace FluentKotlin

namespace Scalar

/-- Equal numbers have the same residue for this prime, whatever kind of number they are. -/
def residueModulus : Nat := Nat.pow 2 61 - 1

/-- Powers of two repeat for the modulus after sixty-one of them, also those below one. -/
def binaryResidue (b : Decimal.Binary) : Nat :=
  b.significand * Nat.pow 2 (b.exponent % 61).toNat % residueModulus

def infinityResidue : Nat := 314159

/-- A residue with its sign, where -2 also stands for -1. -/
def signedResidue (negative : Bool) (residue : Nat) : Int :=
  if negative then if residue = 1 then -2 else -(residue : Int) else residue

/-- The residue of a number. -/
def residue? : Scalar → Option Int
  | bool b => some (ofBool b)
  | int n => some (signedResidue (n < 0) (n.natAbs % residueModulus))
  | float x =>
    let bits := x.toBits.toNat
    match Decimal.magnitude bits with
    | .finite b => some (signedResidue (Decimal.isNegative bits) (binaryResidue b))
    | .infinite => some (signedResidue (Decimal.isNegative bits) infinityResidue)
    | .notANumber => none
  | _ => none

end Scalar

/-- The places of a set, with a member or free. -/
abbrev SetTable := Array (Option Scalar)

namespace SetTable

/-- The number of places for a number of members, which is a power of two. -/
def sizeFor (count : Nat) : Nat :=
  if count ≤ 4 then 8 else Nat.pow 2 (Nat.log2 (2 * count) + 1)

/-- The places that a walk looks at before it jumps. It does not look over the end of the table. -/
def lookedAt (size place : Nat) : List Nat :=
  if place + 9 < size then List.range' place 10 else [place]

def isFree (table : SetTable) (place : Nat) : Bool := (table.getD place none).isNone

/-- The first free place of a walk from one place on. What is left of the residue decides where the
walk jumps to, five bits less each time. -/
def freePlace (table : SetTable) : Nat → Nat → Nat → Nat
  | 0, place, _ => place
  | fuel + 1, place, left =>
    match (lookedAt table.size place).find? table.isFree with
    | some free => free
    | none => freePlace table fuel ((5 * place + 1 + left / 32) % table.size) (left / 32)

/-- A walk comes by every place as soon as nothing of the residue is left. -/
def fuelFor (table : SetTable) : Nat := table.size + 64

def insert (table : SetTable) (member : Scalar) (residue : Int) : SetTable :=
  let left := (residue % (Nat.pow 2 64 : Nat)).toNat
  let place := freePlace table table.fuelFor (left % table.size) left
  table.setIfInBounds place (some member)

def ofMembers (members : List (Scalar × Int)) : SetTable :=
  members.foldl (fun table m => table.insert m.1 m.2)
    (Array.replicate (sizeFor members.length) none)

end SetTable

/-- The members of a set in the order in which they are listed. -/
def listedMembers (members : List Scalar) : List Scalar :=
  match members.mapM Scalar.residue? with
  | some residues => (SetTable.ofMembers (members.zip residues)).toList.filterMap id
  | none => members

end FluentKotlin
