import FluentKotlin.Path
import FluentKotlin.Text.Code

/-! # Names of entries

A store knows an entry by the bytes of its name. A character has the bytes of its UTF-8 form, and
one of the low halves stands for a byte that is part of no such form. Names with the same bytes are
names of one entry.
-/

namespace FluentKotlin

/-- Why a name is the name of no entry. -/
inductive NameFault where
  /-- It holds half of a character, which has no bytes. -/
  | noBytes
  /-- It holds the null character, which ends every path. -/
  | null
  deriving DecidableEq, Repr, Inhabited

def NameFault.message : NameFault → String
  | noBytes => "the name holds half of a character"
  | null => "embedded null byte"

namespace EntryName

/-- The half that stands for the first byte beyond ASCII. -/
def firstByteHalf : Nat := 0xdc80

def lastByteHalf : Nat := 0xdcff

def codeBytes (code : Nat) : Option (List UInt8) :=
  if Text.isHalf code then
    if firstByteHalf ≤ code ∧ code ≤ lastByteHalf then some [UInt8.ofNat code] else none
  else some (Char.ofNat code).toString.toUTF8.toList

def bytes (name : String) : Option (List UInt8) :=
  ((Text.codesOf name).mapM codeBytes).map List.flatten

/-- The bytes of the character in front, told from its first byte. -/
def formLength (first : UInt8) : Nat :=
  if first < 0x80 then 1 else if first < 0xe0 then 2 else if first < 0xf0 then 3 else 4

/-- The character whose form stands in front. -/
def firstChar? (bs : List UInt8) : Option Char := do
  let form := bs.take (formLength (← bs.head?))
  let text ← String.fromUTF8? (ByteArray.mk form.toArray)
  text.toList.head?

/-- The code in front: a character, or else the half for one byte. -/
def firstCode (b : UInt8) (bs : List UInt8) : Nat × Nat :=
  match firstChar? (b :: bs) with
  | some c => (c.toNat, formLength b)
  | none => (firstByteHalf + (b.toNat - 0x80), 1)

def codesOfBytes : Nat → List UInt8 → List Nat
  | 0, _ => []
  | _ + 1, [] => []
  | fuel + 1, b :: bs =>
    let (code, length) := firstCode b bs
    code :: codesOfBytes fuel ((b :: bs).drop length)

/-- The name by which an entry with these bytes is shown. -/
def ofBytes (bs : List UInt8) : String :=
  String.ofList (Text.ofCodes (codesOfBytes bs.length bs))

def fault? (name : String) : Option NameFault :=
  if (bytes name).isNone then some .noBytes
  else if Text.contains '\x00' name then some .null
  else none

/-- The name by which the entry of a name is shown. -/
def shown (name : String) : String := ((bytes name).map ofBytes).getD name

def length (name : String) : Nat := ((bytes name).getD []).length

/-- The bytes that a name may have. -/
def limit : Nat := 255

def isTooLong (name : String) : Bool := limit < length name

end EntryName

namespace Path

/-- Why a path leads nowhere. Names without bytes come first. -/
def fault? (p : Path) : Option NameFault :=
  let faults := p.names.filterMap EntryName.fault?
  (faults.find? (· == .noBytes)).or faults.head?

/-- The bytes that a path may have. -/
def limit : Nat := 4095

def length (p : Path) : Nat := EntryName.length p.written

def isTooLong (p : Path) : Bool := limit < p.length

end Path

end FluentKotlin
