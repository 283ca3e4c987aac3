import FluentKotlin.Text.Span

/-! # White space

The white space of Unicode together with the four information separators. Trimming takes it
off both ends of a text.
-/

namespace FluentKotlin.Text

def blankSpans : List Span := [
   ⟨0x9, 0xd, 1⟩, ⟨0x1c, 0x20, 1⟩, ⟨0x85, 0x85, 1⟩, ⟨0xa0, 0xa0, 1⟩,
   ⟨0x1680, 0x1680, 1⟩, ⟨0x2000, 0x200a, 1⟩, ⟨0x2028, 0x2029, 1⟩, ⟨0x202f, 0x202f, 1⟩,
   ⟨0x205f, 0x205f, 1⟩, ⟨0x3000, 0x3000, 1⟩]

def isBlank (c : Char) : Bool :=
  inSpans blankSpans c.toNat

/-- The characters without the white space at the front. -/
def dropBlank (cs : List Char) : List Char :=
  cs.dropWhile isBlank

/-- The characters without the white space at either end. -/
def trimChars (cs : List Char) : List Char :=
  (dropBlank (dropBlank cs).reverse).reverse

def trim (s : String) : String :=
  String.ofList (trimChars s.toList)

@[simp] theorem trimChars_nil : trimChars [] = [] := rfl

@[simp] theorem toList_trim (s : String) : (trim s).toList = trimChars s.toList := by
  simp [trim]

end FluentKotlin.Text
