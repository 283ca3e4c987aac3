/-! # Lines

A text is cut into lines at every line break of Unicode, where a carriage return with a line
feed counts as one break. Indenting puts spaces before the first line and before every later
line that is not empty, and ends lines with a line feed.
-/

namespace FluentKotlin.Text

def isLineBreak (c : Char) : Bool :=
  c == '\n' || c == '\r' || c == '\x0b' || c == '\x0c' || c == '\x1c' || c == '\x1d' ||
    c == '\x1e' || c == '\u0085' || c == '\u2028' || c == '\u2029'

/-- Put a character before the first line. -/
def consLine (c : Char) : List (List Char) → List (List Char)
  | [] => [[c]]
  | line :: lines => (c :: line) :: lines

/-- The lines of a text without their breaks. A break at the end opens no further line. -/
def lineChars : List Char → List (List Char)
  | [] => []
  | '\r' :: '\n' :: cs => [] :: lineChars cs
  | c :: cs => if isLineBreak c then [] :: lineChars cs else consLine c (lineChars cs)

def lines (s : String) : List String :=
  (lineChars s.toList).map String.ofList

def indentation : List Char := [' ', ' ', ' ', ' ']

def indentLine (line : List Char) : List Char :=
  if line.isEmpty then [] else indentation ++ line

def indentChars (cs : List Char) : List Char :=
  match lineChars (cs ++ ['\n']) with
  | [] => indentation
  | line :: lines => List.intercalate ['\n'] ((indentation ++ line) :: lines.map indentLine)

def indent (s : String) : String :=
  String.ofList (indentChars s.toList)

/-- The text with every carriage return, alone or before a line feed, read as a line feed. -/
def unifyBreaks : List Char → List Char
  | [] => []
  | '\r' :: '\n' :: cs => '\n' :: unifyBreaks cs
  | '\r' :: cs => '\n' :: unifyBreaks cs
  | c :: cs => c :: unifyBreaks cs

theorem mem_consLine {c : Char} {line : List Char} {ls : List (List Char)}
    (h : line ∈ consLine c ls) : line = [c] ∨ (∃ l ∈ ls, line = c :: l) ∨ line ∈ ls := by
  cases ls with
  | nil => simp_all [consLine]
  | cons l ls =>
    simp only [consLine, List.mem_cons] at h
    rcases h with rfl | h
    · exact .inr (.inl ⟨l, by simp, rfl⟩)
    · exact .inr (.inr (by simp [h]))

/-- A line holds no line break. -/
theorem isLineBreak_of_mem_lineChars {cs line : List Char} (h : line ∈ lineChars cs) :
    ∀ c ∈ line, isLineBreak c = false := by
  fun_induction lineChars cs generalizing line with
  | case1 => simp at h
  | case2 cs ih =>
    rcases List.mem_cons.mp h with rfl | h
    · simp
    · exact ih h
  | case3 c cs _ hc ih =>
    rcases List.mem_cons.mp h with rfl | h
    · simp
    · exact ih h
  | case4 c cs _ hc ih =>
    rcases mem_consLine h with rfl | ⟨l, hl, rfl⟩ | h
    · simpa using hc
    · simpa [hc] using ih hl
    · exact ih h

@[simp] theorem toList_indent (s : String) : (indent s).toList = indentChars s.toList := by
  simp [indent]

theorem consLine_ne_nil (c : Char) (ls : List (List Char)) : consLine c ls ≠ [] := by
  cases ls <;> simp [consLine]

theorem lineChars_ne_nil : ∀ {cs : List Char}, cs ≠ [] → lineChars cs ≠ []
  | [], h => absurd rfl h
  | c :: cs, _ => by
      unfold lineChars
      split
      · simp_all
      · simp
      · split
        · simp
        · exact consLine_ne_nil _ _

end FluentKotlin.Text
