/-! # Segments of a text

A text is cut at every occurrence of a separating character. A dotted name has a last segment
and a qualifier, which is all that stands before the last dot.
-/

namespace FluentKotlin.Text

def segments (sep : Char) (s : String) : List String :=
  (s.toList.splitOn sep).map String.ofList

def lastSegment (s : String) : String :=
  (segments '.' s).getLastD ""

def qualifier (s : String) : String :=
  String.intercalate "." (segments '.' s).dropLast

def contains (c : Char) (s : String) : Bool :=
  s.toList.contains c

def startsWith (start s : String) : Bool :=
  start.toList.isPrefixOf s.toList

theorem contains_iff (c : Char) (s : String) : contains c s = true ↔ c ∈ s.toList := by
  simp [contains]

theorem startsWith_iff (start s : String) :
    startsWith start s = true ↔ start.toList <+: s.toList := by
  simp [startsWith]

end FluentKotlin.Text
