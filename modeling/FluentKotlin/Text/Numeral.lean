/-! # Numbers as text

Whole numbers are written with the digits to the base ten, and a negative one after a minus. The
numbers of a document have at most so many digits where they are read or written.
-/

namespace FluentKotlin

def writtenNat (n : Nat) : String := String.ofList (Nat.toDigits 10 n)

def writtenInt : Int → String
  | .ofNat n => writtenNat n
  | .negSucc n => "-" ++ writtenNat (n + 1)

/-- At least so many digits, with zeros in front. -/
def padded (width n : Nat) : String :=
  let digits := Nat.toDigits 10 n
  String.ofList (List.replicate (width - digits.length) '0' ++ digits)

/-- The most digits that an integer of a document is read from or written with. -/
def maxDigits : Nat := 4300

/-- The least number that is too long to be written. -/
def longBound : Nat := Nat.pow 10 maxDigits

/-- Why an integer has no text, or a text no integer, with what is known of the digits. -/
def digitLimitText (known : String) : String :=
  "Exceeds the limit (" ++ writtenNat maxDigits ++ " digits) for integer string conversion"
    ++ known ++ "; use sys.set_int_max_str_digits() to increase the limit"

end FluentKotlin
