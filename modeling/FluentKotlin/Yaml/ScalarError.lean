import FluentKotlin.Text.Quoted
import FluentKotlin.Value.Calendar

/-! # Scalars without a value

Why the text of a scalar has no value of the kind that is asked for, or an escape in it names no
character. These faults are about one value, and not about the notation of the text around it.
-/

namespace FluentKotlin.Yaml

inductive ScalarError where
  | notInteger (base : Nat) (text : String)
  | longInteger (digits : Nat)
  | notNumber (text : String)
  /-- A digit to the base sixty stands for more than a double can hold. -/
  | largeDigit
  /-- There is no character where a number has to start. -/
  | noNumber
  | notTruth (word : String)
  | notTime
  /-- The text for a time is given by an entry of a mapping. -/
  | timeInMapping
  | calendar (e : CalendarError)
  | noCharacter
  /-- The code of an escape is too large to be looked up. -/
  | largeCode
  deriving DecidableEq, Repr, Inhabited

/-- As much as is shown of a text that is no integer. -/
def maxShown : Nat := 200

def ScalarError.message : ScalarError → String
  | notInteger base text => "invalid literal for int() with base " ++ writtenNat base ++ ": "
      ++ String.ofList ((Text.quoted text).toList.take maxShown)
  | longInteger digits => digitLimitText (": value has " ++ writtenNat digits ++ " digits")
  | notNumber text => "could not convert string to float: " ++ Text.quoted text
  | largeDigit => "the number is too large for its parts"
  | noNumber => "there is no number"
  | notTruth word => word
  | notTime => "the text is no time"
  | timeInMapping => "a mapping has no text for a time"
  | calendar e => e.message
  | noCharacter => "chr() arg not in range(0x110000)"
  | largeCode => "the code is too large"

end FluentKotlin.Yaml
