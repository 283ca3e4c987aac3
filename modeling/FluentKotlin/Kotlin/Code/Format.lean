import FluentKotlin.Kotlin.Shown
import FluentKotlin.Text.Lines

/-! # Formatting of code blocks

A format is read once from left to right. A percent sign before one of four letters is a hole, two
percent signs stand for one, and every other character stands for itself. The holes are filled
with the texts of the arguments in order, and the texts are not read again.
-/

namespace FluentKotlin

inductive Hole where
  | type
  | name
  | literal
  | string
  deriving DecidableEq, Repr, Inhabited

def Hole.ofChar? : Char → Option Hole
  | 'T' => some .type
  | 'N' => some .name
  | 'L' => some .literal
  | 'S' => some .string
  | _ => none

inductive Piece where
  | char (c : Char)
  | hole (h : Hole)
  deriving DecidableEq, Repr, Inhabited

def pieces : List Char → List Piece
  | [] => []
  | [c] => [.char c]
  | c :: d :: cs =>
    if c = '%' then
      match Hole.ofChar? d with
      | some h => .hole h :: pieces cs
      | none => if d = '%' then .char '%' :: pieces cs else .char '%' :: pieces (d :: cs)
    else .char c :: pieces (d :: cs)

theorem pieces_cons_of_ne {c : Char} (h : c ≠ '%') (cs : List Char) :
    pieces (c :: cs) = .char c :: pieces cs := by
  cases cs with
  | nil => rfl
  | cons d cs => rw [pieces, if_neg h]

def Piece.hole? : Piece → Option Hole
  | .char _ => none
  | .hole h => some h

def holes (ps : List Piece) : List Hole := ps.filterMap Piece.hole?

/-- The pieces with the holes filled in order. -/
def fill : List Piece → List String → List Char
  | [], _ => []
  | .char c :: ps, texts => c :: fill ps texts
  | .hole _ :: ps, [] => fill ps []
  | .hole _ :: ps, t :: texts => t.toList ++ fill ps texts

@[simp] theorem holes_char (c : Char) (ps : List Piece) : holes (.char c :: ps) = holes ps := rfl

@[simp] theorem holes_hole (h : Hole) (ps : List Piece) :
    holes (.hole h :: ps) = h :: holes ps := rfl

@[simp] theorem holes_append (ps qs : List Piece) : holes (ps ++ qs) = holes ps ++ holes qs := by
  simp [holes]

/-- Pieces that have a text for every hole are filled apart from what follows them. -/
theorem fill_append {ps : List Piece} {texts : List String} (h : (holes ps).length = texts.length)
    (qs : List Piece) (others : List String) :
    fill (ps ++ qs) (texts ++ others) = fill ps texts ++ fill qs others := by
  induction ps generalizing texts with
  | nil =>
    have ht : texts = [] := by simpa [holes] using h.symm
    simp [ht, fill]
  | cons p ps ih =>
    cases p with
    | char c => simp [fill, ih h]
    | hole k =>
      cases texts with
      | nil => simp [holes, Piece.hole?] at h
      | cons t texts =>
        have hl : (holes ps).length = texts.length := by simpa [holes, Piece.hole?] using h
        simp [fill, ih hl]

inductive FormatError where
  | tooFew (format : String)
  | tooMany (format : String)
  | notType (shown : String)
  | notName (shown : String)
  deriving DecidableEq, Repr, Inhabited

def FormatError.message : FormatError → String
  | tooFew format => "Not enough arguments for " ++ Text.quoted format
  | tooMany format => "Too many arguments for " ++ Text.quoted format
  | notType shown => "%T expects a type name, got " ++ shown
  | notName shown => "%N expects a name or a named spec, got " ++ shown

def escapeLiteral (c : Char) : List Char :=
  if c == '\\' || c == Text.doubleQuote || c == '$' then ['\\', c]
  else if c == '\n' then ['\\', 'n']
  else if c == '\t' then ['\\', 't']
  else [c]

/-- A string literal of the generated language. -/
def stringLiteral (s : String) : String :=
  String.ofList (Text.doubleQuote :: s.toList.flatMap escapeLiteral ++ [Text.doubleQuote])

def Argument.name? : Argument → Option String
  | .scalar (.text s) => some s
  | .type (.typeVariable name _) => some name
  | .declaration name _ => name
  | _ => none

def Argument.type? : Argument → Option TypeName
  | .type t => some t
  | _ => none

def Argument.nameText (a : Argument) : Except FormatError String :=
  match a.name? with
  | some name => .ok name
  | none => .error (.notName a.shown)

def Argument.typeTextWith (classText : ClassName → String) (a : Argument) :
    Except FormatError String :=
  match a.type? with
  | some t => .ok (t.textWith classText)
  | none => .error (.notType a.shown)

/-- The text of an argument in a hole, given its text as a literal. -/
def Argument.textForWith (classText : ClassName → String) (h : Hole) (a : Argument)
    (literal : Except FormatError String) : Except FormatError String :=
  match h with
  | .type => a.typeTextWith classText
  | .name => a.nameText
  | .string => .ok (stringLiteral a.written)
  | .literal => literal

def literalScalar : Scalar → String
  | .bool b => if b then "true" else "false"
  | value => value.written

def argumentLine (text : String) : String := String.ofList Text.indentation ++ text

/-- Named arguments stand on lines of their own. -/
def argumentLines (texts : List String) : String :=
  if texts.isEmpty then ""
  else "\n" ++ String.intercalate ",\n" (texts.map argumentLine) ++ "\n"

section

variable (classText : ClassName → String)

mutual

/-- The text of a block, given the text of the classes in it. -/
def CodeBlock.formattedWith : CodeBlock → Except FormatError String
  | ⟨format, arguments⟩ => do
    let ps := pieces format.toList
    let texts ← holeTextsWith format (holes ps) arguments
    return String.ofList (fill ps texts)

/-- The texts for the holes. A surplus argument is an error unless it is null. -/
def holeTextsWith (format : String) : List Hole → List Argument → Except FormatError (List String)
  | [], [] => .ok []
  | [], a :: _ => if a.isNull then .ok [] else .error (.tooMany format)
  | _ :: _, [] => .error (.tooFew format)
  | h :: hs, a :: as => do
    let text ← a.textForWith classText h a.literalTextWith
    let texts ← holeTextsWith format hs as
    return text :: texts

def Argument.literalTextWith : Argument → Except FormatError String
  | .scalar value => .ok (literalScalar value)
  | .type t => .ok (t.textWith classText)
  | .code block => block.formattedWith
  | .arguments blocks => do
    let texts ← formattedAllWith blocks
    return argumentLines texts
  | .declaration _ shown => .ok shown

def formattedAllWith : List CodeBlock → Except FormatError (List String)
  | [] => .ok []
  | b :: bs => do
    let text ← b.formattedWith
    let texts ← formattedAllWith bs
    return text :: texts

end

end

def CodeBlock.formatted (b : CodeBlock) : Except FormatError String :=
  b.formattedWith ClassName.rendered

end FluentKotlin
