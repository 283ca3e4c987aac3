import FluentKotlin.Text.Blank
import FluentKotlin.Text.Code
import FluentKotlin.Text.Word

/-! # Tokens of a type text

A word starts with a letter of the Latin alphabet or an underscore and goes on with word
characters and dots as far as it can. Every other character that is not white space is a token of
its own. A token can name a type when it is a word or a single letter.
-/

namespace FluentKotlin

inductive TypeToken where
  | word (first : Char) (others : List Char)
  | mark (c : Char)
  /-- A character that a text holds with a mark in front of it. -/
  | reserved (c : Char)
  deriving DecidableEq, Repr, Inhabited

namespace TypeToken

def startsWord (c : Char) : Bool := c.isAlpha || c == '_'

def continuesWord (c : Char) : Bool := c == '.' || Text.isWord c

def chars : TypeToken → List Char
  | word first others => first :: others
  | mark c => [c]
  | reserved c => [Text.mark, c]

def text (t : TypeToken) : String := String.ofList t.chars

def isName : TypeToken → Bool
  | word _ _ => true
  | mark c => Text.isLetter c
  | reserved _ => false

theorem length_dropWhile_le {α : Type} (p : α → Bool) (xs : List α) :
    (xs.dropWhile p).length ≤ xs.length :=
  (List.dropWhile_sublist p).length_le

/-- The tokens of a text in order. -/
def scan : List Char → List TypeToken
  | [] => []
  | c :: cs =>
    if Text.isBlank c then scan cs
    else if startsWord c then
      word c (cs.takeWhile continuesWord) :: scan (cs.dropWhile continuesWord)
    else if c = Text.mark then (cs.take 1).map reserved ++ scan (cs.drop 1)
    else mark c :: scan cs
termination_by cs => cs.length
decreasing_by
  · simp
  · have := length_dropWhile_le continuesWord cs
    simp only [List.length_cons]
    omega
  · simp only [List.length_drop, List.length_cons]
    omega
  · simp

theorem scan_nil : scan [] = [] := by simp [scan]

/-- One step of the scan. -/
theorem scan_cons (c : Char) (cs : List Char) :
    scan (c :: cs) =
      if Text.isBlank c then scan cs
      else if startsWord c then
        word c (cs.takeWhile continuesWord) :: scan (cs.dropWhile continuesWord)
      else if c = Text.mark then (cs.take 1).map reserved ++ scan (cs.drop 1)
      else mark c :: scan cs := by
  rw [scan]

theorem scan_blank {c : Char} (h : Text.isBlank c = true) (cs : List Char) :
    scan (c :: cs) = scan cs := by
  rw [scan_cons, if_pos h]

theorem scan_word {c : Char} (hb : Text.isBlank c = false) (hw : startsWord c = true)
    (cs : List Char) :
    scan (c :: cs) =
      word c (cs.takeWhile continuesWord) :: scan (cs.dropWhile continuesWord) := by
  rw [scan_cons, if_neg (by simp [hb]), if_pos hw]

theorem scan_mark {c : Char} (hb : Text.isBlank c = false) (hw : startsWord c = false)
    (hm : c ≠ Text.mark) (cs : List Char) : scan (c :: cs) = mark c :: scan cs := by
  rw [scan_cons, if_neg (by simp [hb]), if_neg (by simp [hw]), if_neg hm]

theorem scan_reserved (c : Char) (cs : List Char) :
    scan (Text.mark :: c :: cs) = reserved c :: scan cs := by
  rw [scan_cons, if_neg (by decide), if_neg (by decide), if_pos rfl]
  rfl

end TypeToken

end FluentKotlin
