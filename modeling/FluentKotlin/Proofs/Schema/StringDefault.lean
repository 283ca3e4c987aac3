import FluentKotlin.Kotlin.Layout
import FluentKotlin.Proofs.Kotlin.Drafts
import FluentKotlin.Proofs.Kotlin.Formatted
import FluentKotlin.Proofs.Schema.Forms

/-! # Defaults that are texts

The default of a property can be a text. Its builder stores it as a string literal, where a
backslash stands before every character that would end the literal or would not be taken as it is.
Read from left to right, the literal ends at its last character and stands for the text again.
-/

namespace FluentKotlin

/-! ### Reading a literal -/

/-- A character of a literal: one by itself, one behind a backslash, or a last backslash. -/
inductive Glyph where
  | plain (c : Char)
  | escaped (c : Char)
  | cut
  deriving DecidableEq, Repr

def glyphs : List Char → List Glyph
  | [] => []
  | [c] => [if c = '\\' then .cut else .plain c]
  | c :: d :: cs => if c = '\\' then .escaped d :: glyphs cs else .plain c :: glyphs (d :: cs)

def unescape? (c : Char) : Option Char :=
  if c = '\\' ∨ c = Text.doubleQuote ∨ c = '$' then some c
  else if c = 'n' then some '\n'
  else if c = 't' then some '\t'
  else none

def Glyph.meaning? : Glyph → Option Char
  | plain c => some c
  | escaped c => unescape? c
  | cut => none

/-- What the characters between the quotes of a literal stand for. -/
def decoded (body : List Char) : Option (List Char) := (glyphs body).mapM Glyph.meaning?

/-- The text is a literal for the other one. The first double quote behind the opening one that is
not escaped is the last character. -/
structure IsLiteral (text meant : String) (body : List Char) : Prop where
  quoted : text.toList = Text.doubleQuote :: (body ++ [Text.doubleQuote])
  closed : ∃ before, glyphs text.toList.tail = before ++ [.plain Text.doubleQuote] ∧
    .plain Text.doubleQuote ∉ before
  noDollar : .plain '$' ∉ glyphs text.toList
  meant : decoded body = some meant.toList

section Glyphs

variable {c : Char}

theorem glyphs_cons_of_ne (h : c ≠ '\\') (cs : List Char) :
    glyphs (c :: cs) = .plain c :: glyphs cs := by
  cases cs with
  | nil => exact congrArg (fun g => [g]) (if_neg h)
  | cons d cs => rw [glyphs, if_neg h]

theorem glyphs_escape (c : Char) (cs : List Char) :
    glyphs ('\\' :: c :: cs) = .escaped c :: glyphs cs := by
  rw [glyphs, if_pos rfl]

end Glyphs

/-! ### Writing a literal -/

def glyphOf (c : Char) : Glyph :=
  if c == '\\' || c == Text.doubleQuote || c == '$' then .escaped c
  else if c == '\n' then .escaped 'n'
  else if c == '\t' then .escaped 't'
  else .plain c

theorem glyphs_escapeLiteral (c : Char) (rest : List Char) :
    glyphs (escapeLiteral c ++ rest) = glyphOf c :: glyphs rest := by
  unfold escapeLiteral glyphOf
  cases h : c == '\\' || c == Text.doubleQuote || c == '$' with
  | true => exact glyphs_escape c rest
  | false =>
    cases c == '\n' with
    | true => exact glyphs_escape 'n' rest
    | false =>
      cases c == '\t' with
      | true => exact glyphs_escape 't' rest
      | false => exact glyphs_cons_of_ne (by rintro rfl; cases h) rest

theorem glyphs_flatMap_escapeLiteral (cs rest : List Char) :
    glyphs (cs.flatMap escapeLiteral ++ rest) = cs.map glyphOf ++ glyphs rest := by
  induction cs with
  | nil => rfl
  | cons c cs ih =>
    rw [List.flatMap_cons, List.append_assoc, glyphs_escapeLiteral, ih, List.map_cons,
      List.cons_append]

theorem meaning?_glyphOf (c : Char) : (glyphOf c).meaning? = some c := by
  unfold glyphOf
  cases h : c == '\\' || c == Text.doubleQuote || c == '$' with
  | true =>
    have hc : c = '\\' ∨ c = Text.doubleQuote ∨ c = '$' := by simpa [or_assoc] using h
    exact if_pos hc
  | false =>
    cases hn : c == '\n' with
    | true =>
      rw [beq_iff_eq.mp hn]
      rfl
    | false =>
      cases ht : c == '\t' with
      | true =>
        rw [beq_iff_eq.mp ht]
        rfl
      | false => rfl

theorem glyphOf_ne_plain {c d : Char} (h : d = Text.doubleQuote ∨ d = '$') :
    glyphOf c ≠ .plain d := by
  unfold glyphOf
  cases hc : c == '\\' || c == Text.doubleQuote || c == '$' with
  | true => nofun
  | false =>
    cases c == '\n' with
    | true => nofun
    | false =>
      cases c == '\t' with
      | true => nofun
      | false =>
        rintro ⟨⟩
        rcases h with rfl | rfl <;> cases hc

theorem plain_notMem_map_glyphOf {d : Char} (h : d = Text.doubleQuote ∨ d = '$')
    (cs : List Char) : .plain d ∉ cs.map glyphOf := by
  intro hm
  obtain ⟨c, _, hc⟩ := List.mem_map.mp hm
  exact glyphOf_ne_plain h hc

theorem mapM_meaning?_glyphOf (cs : List Char) :
    (cs.map glyphOf).mapM Glyph.meaning? = some cs := by
  induction cs with
  | nil => rfl
  | cons c cs ih =>
    rw [List.map_cons, List.mapM_cons, meaning?_glyphOf, ih]
    rfl

theorem isLiteral_stringLiteral (s : String) :
    IsLiteral (stringLiteral s) s (s.toList.flatMap escapeLiteral) := by
  have hquote : Text.doubleQuote ≠ '\\' := by decide
  have hlist : (stringLiteral s).toList =
      Text.doubleQuote :: (s.toList.flatMap escapeLiteral ++ [Text.doubleQuote]) :=
    String.toList_ofList
  have hclose : glyphs (s.toList.flatMap escapeLiteral ++ [Text.doubleQuote]) =
      s.toList.map glyphOf ++ [.plain Text.doubleQuote] :=
    glyphs_flatMap_escapeLiteral s.toList [Text.doubleQuote]
  refine ⟨hlist, ⟨s.toList.map glyphOf, ?_, plain_notMem_map_glyphOf (Or.inl rfl) _⟩, ?_, ?_⟩
  · rw [hlist, List.tail_cons, hclose]
  · rw [hlist, glyphs_cons_of_ne hquote, hclose, List.mem_cons, List.mem_append, not_or, not_or]
    exact ⟨by decide, plain_notMem_map_glyphOf (Or.inr rfl) _, by decide⟩
  · have hbody := glyphs_flatMap_escapeLiteral s.toList []
    rw [List.append_nil, glyphs, List.append_nil] at hbody
    rw [decoded, hbody, mapM_meaning?_glyphOf]

def replaced (c : Char) (text : String) (cs : List Char) : List Char :=
  cs.flatMap fun d => if d = c then text.toList else [d]

/-- The characters of a text are escaped one after another, backslashes first. -/
def escapedInTurn (cs : List Char) : List Char :=
  replaced '\t' "\\t" (replaced '\n' "\\n" (replaced '$' "\\$"
    (replaced Text.doubleQuote "\\\"" (replaced '\\' "\\\\" cs))))

theorem flatMap_escapeLiteral (cs : List Char) :
    cs.flatMap escapeLiteral = escapedInTurn cs := by
  unfold escapedInTurn replaced
  simp only [List.flatMap_assoc]
  refine List.flatMap_congr fun c _ => ?_
  by_cases h : c ∈ ['\\', Text.doubleQuote, '$', '\n', '\t']
  · simp only [List.mem_cons, List.not_mem_nil, or_false] at h
    rcases h with rfl | rfl | rfl | rfl | rfl <;> rfl
  · simp only [List.mem_cons, List.not_mem_nil, or_false, not_or] at h
    obtain ⟨hb, hq, hd, hn, ht⟩ := h
    simp [escapeLiteral, hb, hq, hd, hn, ht]

/-! ### The default of a property -/

theorem CodeBlock.formattedWith_hole {classText : ClassName → String} {format text : String}
    {h : Hole} {a : Argument} (hp : pieces format.toList = [.hole h])
    (ha : a.textFor classText h = .ok text) :
    (CodeBlock.mk format [a]).formattedWith classText = .ok text := by
  rw [formattedWith_eq_ok, hp]
  refine ⟨[text], holeTextsWith_eq_ok.mpr ⟨Nat.le_refl 1, Or.inl rfl, .cons ha .nil⟩, ?_⟩
  rw [fill, fill, List.append_nil, String.ofList_toList]

theorem PropertyDecl.textWith_of_initializer {classText : ClassName → String} {p : PropertyDecl}
    {b : CodeBlock} {text : String} (hi : p.initializer = some b)
    (h : b.formattedWith classText = .ok text) :
    ∃ lead, p.textWith classText = .ok (lead ++ " = " ++ text) := by
  unfold textWith initializerTextWith
  rw [hi]
  dsimp only
  rw [h, Except.map, ok_bind, ← String.append_assoc]
  exact ⟨_, rfl⟩

namespace Schema

variable {classText : ClassName → String}

/-- The initializer of a default is a literal or the text as it is. -/
def defaultText (hint : DefaultHint) : String :=
  if hint.isString then stringLiteral hint.literal else hint.literal

theorem defaultCode_formattedWith (hint : DefaultHint) :
    (defaultCode hint).formattedWith classText = .ok (defaultText hint) := by
  unfold defaultCode defaultText
  split
  · exact CodeBlock.formattedWith_hole rfl rfl
  · exact CodeBlock.formattedWith_hole rfl rfl

theorem initializer_formattedWith_of_default {s : Schema} {hint : DefaultHint}
    (hd : s.default = some hint) :
    s.initializer.formattedWith classText = .ok (defaultText hint) := by
  unfold initializer
  rw [hd]
  exact defaultCode_formattedWith hint

/-- A default of the text type is stored as a literal that stands for it, whatever the text is. The
literal is all of the initializer, which the stored property ends with. Between the quotes it is as
if the characters were replaced one after another in the whole text. -/
theorem stringDefault_isLiteral {known : KnownDomains} {label : Option String}
    {p : DomainProperty} {hint : DefaultHint} {s : Schema} (classText : ClassName → String)
    (hd : p.default = some hint) (hs : hint.isString = true)
    (h : Reporting.value (classify known label p) = .ok s) :
    ∃ text body, s.initializer.formattedWith classText = .ok text ∧
      IsLiteral text hint.literal body ∧ body = escapedInTurn hint.literal.toList ∧
      (p.name ≠ "" → ∃ stored lead, s.storedProperty = .ok stored ∧
        stored.textWith classText = .ok (lead ++ " = " ++ text)) := by
  obtain ⟨form, rfl, -⟩ := follows_classify h
  have htext : (make p form).initializer.formattedWith classText =
      .ok (stringLiteral hint.literal) := by
    rw [initializer_formattedWith_of_default hd, defaultText, if_pos hs]
  refine ⟨_, _, htext, isLiteral_stringLiteral hint.literal, flatMap_escapeLiteral _,
    fun hn => ?_⟩
  obtain ⟨stored, hstored, hi⟩ : ∃ stored, (make p form).storedProperty = .ok stored ∧
      stored.initializer = some (make p form).initializer :=
    ⟨_, PropertyDraft.build_of_name rfl hn rfl, rfl⟩
  obtain ⟨lead, hl⟩ := PropertyDecl.textWith_of_initializer hi htext
  exact ⟨stored, lead, hstored, hl⟩

/-- A property whose default has every kind of character that is escaped, and a backslash before
one of them. -/
def escapedDefault : DomainProperty :=
  { name := "a", declared := .string,
    default := some ⟨"C:\\n\\\"$x\"\n\t%S\r", .string⟩ }

theorem stringDefault_isLiteral_escapedDefault :
    ∃ hint s, escapedDefault.default = some hint ∧ hint.isString = true ∧
      Reporting.value (classify [] none escapedDefault) = .ok s ∧
      ∃ text body, s.initializer.formattedWith ClassName.rendered = .ok text ∧
        IsLiteral text hint.literal body ∧ body = escapedInTurn hint.literal.toList ∧
        (escapedDefault.name ≠ "" → ∃ stored lead, s.storedProperty = .ok stored ∧
          stored.textWith ClassName.rendered = .ok (lead ++ " = " ++ text)) := by
  have hy : yields (Reporting.value (classify [] none escapedDefault)) (fun _ => true) = true := by
    decide +kernel
  obtain ⟨s, h, _⟩ := exists_of_yields hy
  have hs : (DefaultHint.mk "C:\\n\\\"$x\"\n\t%S\r" .string).isString = true := by decide
  exact ⟨_, s, rfl, hs, h, stringDefault_isLiteral ClassName.rendered rfl hs h⟩

end Schema

end FluentKotlin
