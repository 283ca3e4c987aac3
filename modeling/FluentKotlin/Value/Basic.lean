import FluentKotlin.Decimal.Shortest
import FluentKotlin.Value.Calendar

/-! # Document values

A document is made of scalars, lists and mappings, and of pairs and sets, which no part of it asks
for. A mapping keeps the order in which its keys first came, and a key that comes again takes the
later value. Numbers and truth values are the same key when they are the same number.

A collection may contain itself. Then it has a name, and the name stands for it inside. To open it
is to put it in the places of its name, so whoever reads a document never meets the name itself.
-/

namespace FluentKotlin

inductive Scalar where
  | null
  | bool (b : Bool)
  | int (n : Int)
  | float (x : Float)
  | text (s : String)
  | date (d : Date)
  | moment (m : Moment)
  | bytes (bs : List UInt8)
  deriving Repr, Inhabited

inductive Value where
  | scalar (s : Scalar)
  | list (items : List Value)
  | mapping (entries : List (Scalar × Value))
  | pair (first second : Value)
  | set (members : List Scalar)
  /-- A collection that contains itself. -/
  | named (name : Nat) (collection : Value)
  /-- The collection of that name around this place. -/
  | again (name : Nat)
  deriving Inhabited

namespace Scalar

/-- Whether a double is exactly this integer. -/
def isInteger (x : Float) (n : Int) : Bool :=
  let bits := x.toBits.toNat
  match Decimal.magnitude bits with
  | .finite b =>
    let r := Decimal.Ratio.ofBinary b
    r.num == n.natAbs * r.den && (n == 0 || Decimal.isNegative bits == decide (n < 0))
  | _ => false

def isZero (x : Float) : Bool := isInteger x 0

def ofBool (b : Bool) : Int := if b then 1 else 0

def sameKey : Scalar → Scalar → Bool
  | null, null => true
  | text s, text t => s == t
  | date d, date e => d == e
  | moment m, moment n => m.isSame n
  | bytes bs, bytes cs => bs == cs
  | bool b, bool c => b == c
  | bool b, int n => ofBool b == n
  | int n, bool b => ofBool b == n
  | int m, int n => m == n
  | int n, float x => isInteger x n
  | float x, int n => isInteger x n
  | bool b, float x => isInteger x (ofBool b)
  | float x, bool b => isInteger x (ofBool b)
  | float x, float y => x.toBits == y.toBits || (isZero x && isZero y)
  | _, _ => false

def isVoid : Scalar → Bool
  | null => true
  | bool b => !b
  | int n => n == 0
  | float x => isZero x
  | text s => s == ""
  | bytes bs => bs.isEmpty
  | date _ | moment _ => false

end Scalar

section Entries

variable {α : Type}

/-- The entries with a value put under a key. -/
def putEntry (key : Scalar) (value : α) : List (Scalar × α) → List (Scalar × α)
  | [] => [(key, value)]
  | (k, v) :: entries =>
    if k.sameKey key then (k, value) :: entries else (k, v) :: putEntry key value entries

/-- The entries of a mapping from its pairs in the order of the document. -/
def entriesOf (pairs : List (Scalar × α)) : List (Scalar × α) :=
  pairs.foldl (fun entries p => putEntry p.1 p.2 entries) []

/-- The value under a text key. -/
def field? (key : String) : List (Scalar × α) → Option α
  | [] => none
  | (.text k, v) :: entries => if k = key then some v else field? key entries
  | _ :: entries => field? key entries

end Entries

namespace Value

def null : Value := .scalar .null

def text (s : String) : Value := .scalar (.text s)

def bool (b : Bool) : Value := .scalar (.bool b)

/-- Null, false, zero and everything empty stand for nothing. -/
def isVoid : Value → Bool
  | .scalar s => s.isVoid
  | .list items => items.isEmpty
  | .mapping entries => entries.isEmpty
  | .set members => members.isEmpty
  | _ => false

section Opening

variable (name : Nat) (whole : Value)

mutual

/-- The value with a collection in the places of its name. -/
def fillIn : Value → Value
  | .scalar s => .scalar s
  | .list items => .list (fillInItems items)
  | .mapping entries => .mapping (fillInEntries entries)
  | .pair a b => .pair (fillIn a) (fillIn b)
  | .set members => .set members
  | .named n v => .named n (fillIn v)
  | .again n => if n = name then whole else .again n

def fillInItems : List Value → List Value
  | [] => []
  | v :: vs => fillIn v :: fillInItems vs

def fillInEntries : List (Scalar × Value) → List (Scalar × Value)
  | [] => []
  | (k, v) :: es => (k, fillIn v) :: fillInEntries es

end

end Opening

/-- The collection that a name is for, with itself where the name stood. -/
def opened : Value → Value
  | .named n v => fillIn n (.named n v) v
  | v => v

@[simp] theorem opened_scalar (s : Scalar) : (Value.scalar s).opened = .scalar s := rfl

@[simp] theorem opened_list (items : List Value) : (Value.list items).opened = .list items := rfl

@[simp] theorem opened_mapping (entries : List (Scalar × Value)) :
    (Value.mapping entries).opened = .mapping entries := rfl

end Value

/-- The value under a key, null where the key is missing. -/
def fieldOrNull (key : String) (entries : List (Scalar × Value)) : Value :=
  (field? key entries).getD .null

end FluentKotlin
