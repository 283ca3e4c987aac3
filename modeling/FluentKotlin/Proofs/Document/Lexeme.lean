import FluentKotlin.Proofs.Document.NameToken

/-! # What the tokens of a type text cover

A text holds a row of codes. A token covers codes that stand in a row: the longest word where one
begins, and a single code elsewhere. There is nothing but white space between the tokens, so they
are the text without its white space.
-/

namespace FluentKotlin

namespace TypeToken

/-! ### Classes of codes -/

def startSpans : List Text.Span := [⟨0x41, 0x5a, 1⟩, ⟨0x5f, 0x5f, 1⟩, ⟨0x61, 0x7a, 1⟩]

def wordSpans : List Text.Span :=
  [⟨0x2e, 0x2e, 1⟩, ⟨0x5f, 0x5f, 1⟩] ++ (Text.letterSpans ++ Text.numberSpans)

def asideSpans : List Text.Span := [⟨0xd800, 0xdfff, 1⟩, ⟨0xf4000, 0xf4800, 1⟩]

def isBlankCode (n : Nat) : Bool := Text.inSpans Text.blankSpans n

def startsWordCode (n : Nat) : Bool := Text.inSpans startSpans n

def continuesWordCode (n : Nat) : Bool := Text.inSpans wordSpans n

variable {c : Char} {n : Nat} {ns codes rest left right : List Nat}

theorem startsWord_eq (c : Char) : startsWord c = startsWordCode c.toNat := by
  have hunderscore : c = '_' ↔ c.toNat = 0x5f := Char.toNat_inj.symm
  rw [Bool.eq_iff_iff]
  simp only [startsWord, startsWordCode, startSpans, Text.inSpans, List.any_cons, List.any_nil,
    Bool.or_eq_true, beq_iff_eq, Text.isAlpha_iff, hunderscore, Text.Span.covers_interval_iff,
    Bool.false_eq_true, or_false]
  omega

theorem beq_eq_covers (c d : Char) :
    (c == d) = Text.Span.covers ⟨d.toNat, d.toNat, 1⟩ c.toNat := by
  rw [Bool.eq_iff_iff, beq_iff_eq, ← Char.toNat_inj, Text.Span.covers_interval_iff]
  omega

theorem continuesWord_eq (c : Char) : continuesWord c = continuesWordCode c.toNat := by
  have hdot : (c == '.') = Text.Span.covers ⟨0x2e, 0x2e, 1⟩ c.toNat := beq_eq_covers c '.'
  have hunderscore : (c == '_') = Text.Span.covers ⟨0x5f, 0x5f, 1⟩ c.toNat := beq_eq_covers c '_'
  simp only [continuesWord, continuesWordCode, wordSpans, Text.isWord, Text.isLetter,
    Text.isNumber, Text.inSpans, List.any_append, List.any_cons, List.any_nil, hdot, hunderscore,
    Bool.or_assoc, Bool.or_false]

theorem isAside_iff : Text.inSpans asideSpans n = true ↔
    (0xd800 ≤ n ∧ n ≤ 0xdfff) ∨ 0xf4000 ≤ n ∧ n ≤ 0xf4800 := by
  simp [asideSpans, Text.inSpans, Text.Span.covers_interval_iff]

theorem isAside_of_isHalf (h : Text.isHalf n = true) : Text.inSpans asideSpans n = true := by
  obtain ⟨hl, hu⟩ := Text.isHalf_iff.mp h
  exact isAside_iff.mpr (Or.inl ⟨hl, Nat.le_of_lt_succ hu⟩)

theorem isAside_of_isReserved (h : Text.isReserved n = true) :
    Text.inSpans asideSpans n = true :=
  isAside_iff.mpr (Or.inr (Text.isReserved_iff.mp h))

/-- The character is in the same classes as the code. -/
structure Alike (c : Char) (n : Nat) : Prop where
  blank : Text.isBlank c = isBlankCode n
  starts : startsWord c = startsWordCode n
  continues : continuesWord c = continuesWordCode n

theorem alike_toNat (c : Char) : Alike c c.toNat := ⟨rfl, startsWord_eq c, continuesWord_eq c⟩

theorem alike_of_isAside (hc : Text.inSpans asideSpans c.toNat = true)
    (hn : Text.inSpans asideSpans n = true) : Alike c n := by
  have alike : ∀ table, Text.areApart asideSpans table = true →
      Text.inSpans table c.toNat = Text.inSpans table n := fun table ht => by
    rw [Text.not_inSpans_of_areApart ht hc, Text.not_inSpans_of_areApart ht hn]
  exact ⟨alike _ (by decide +kernel), (startsWord_eq c).trans (alike _ (by decide +kernel)),
    (continuesWord_eq c).trans (alike _ (by decide +kernel))⟩

/-- A text holds a code by one character of its classes, or by the mark and another one. -/
theorem exists_ofCode (h : n < 0x110000) : ∃ c, Alike c n ∧
    (Text.ofCode n = [c] ∧ c ≠ Text.mark ∨ c = Text.mark ∧ ∃ d, Text.ofCode n = [c, d]) := by
  have hmark : Text.inSpans asideSpans Text.mark.toNat = true := by decide +kernel
  unfold Text.ofCode
  by_cases hhalf : Text.isHalf n
  · have hreserved := isAside_of_isReserved (Text.isReserved_standIn hhalf)
    rw [if_pos hhalf]
    exact ⟨_, alike_of_isAside hreserved (isAside_of_isHalf hhalf),
      Or.inl ⟨rfl, Text.standIn_ne_mark hhalf⟩⟩
  · have hn := Text.toNat_ofNat_of_not_isHalf h hhalf
    have halike := alike_toNat (Char.ofNat n)
    rw [hn] at halike
    rw [if_neg hhalf]
    by_cases hr : Text.isReserved n
    · rw [if_pos hr]
      exact ⟨_, alike_of_isAside hmark (isAside_of_isReserved hr), Or.inr ⟨rfl, _, rfl⟩⟩
    · rw [if_neg hr]
      exact ⟨_, halike, Or.inl ⟨rfl, Text.ne_mark_of_not_isReserved (by rwa [hn])⟩⟩

/-! ### Words and single codes -/

inductive IsWord : List Nat → Prop where
  | mk {n : Nat} {ns : List Nat} : startsWordCode n = true →
      (∀ m ∈ ns, continuesWordCode m = true) → IsWord (n :: ns)

/-- The codes are one token in front of the rest: the longest word that begins with them, or a
single code where no word begins. -/
inductive IsLexeme : List Nat → List Nat → Prop where
  | word {codes rest : List Nat} : IsWord codes →
      (∀ other, other <+: codes ++ rest → IsWord other → other.length ≤ codes.length) →
      IsLexeme codes rest
  | single {n : Nat} {rest : List Nat} : isBlankCode n = false →
      (∀ other, other <+: n :: rest → ¬ IsWord other) → IsLexeme [n] rest

theorem IsLexeme.ne_nil (h : IsLexeme codes rest) : codes ≠ [] := by
  cases h with
  | word hw _ =>
    cases hw
    exact List.cons_ne_nil _ _
  | single => exact List.cons_ne_nil _ _

theorem IsLexeme.of_append (h : IsLexeme codes (left ++ right)) : IsLexeme codes left := by
  have hp : codes ++ left <+: codes ++ (left ++ right) :=
    (List.prefix_append_right_inj codes).mpr (List.prefix_append left right)
  cases h with
  | word hw hl => exact .word hw fun other ho => hl other (ho.trans hp)
  | single hb hn => exact .single hb fun other ho => hn other (ho.trans hp)

theorem IsLexeme.head_of_isWord (h : IsLexeme codes rest) (hw : IsWord codes) :
    ∀ n ∈ rest.head?, continuesWordCode n = false := by
  rintro n hn
  obtain ⟨rest, rfl⟩ := List.head?_eq_some_iff.mp hn
  by_contra hc
  have hp : codes ++ [n] <+: codes ++ n :: rest :=
    (List.prefix_append_right_inj codes).mpr ⟨rest, rfl⟩
  have hlonger : IsWord (codes ++ [n]) := by
    cases hw with
    | mk hs hns => exact .mk hs (List.forall_mem_append.mpr ⟨hns, by simpa using hc⟩)
  cases h with
  | word _ hl => exact absurd (hl _ hp hlonger) (by simp)
  | single _ hn => exact hn _ hp hlonger

theorem exists_isLexeme (hb : isBlankCode n = false) (ns : List Nat) :
    ∃ codes rest, n :: ns = codes ++ rest ∧ IsLexeme codes rest := by
  cases hs : startsWordCode n with
  | true =>
    refine ⟨n :: ns.takeWhile continuesWordCode, ns.dropWhile continuesWordCode, by simp,
      .word (.mk hs fun m hm => List.mem_takeWhile_imp hm) ?_⟩
    rintro other hp (@⟨m, ms, -, hms⟩)
    rw [List.cons_append, List.takeWhile_append_dropWhile, List.cons_prefix_cons] at hp
    obtain ⟨-, more, rfl⟩ := hp
    rw [List.takeWhile_append_of_pos hms]
    simp
  | false =>
    refine ⟨[n], ns, rfl, .single hb ?_⟩
    rintro other hp (@⟨m, ms, hm, -⟩)
    rw [(List.cons_prefix_cons.mp hp).1, hs] at hm
    cases hm

/-- A row of codes is cut from the left into white space and tokens. -/
theorem lexemes_induction {P : List Nat → Prop} (nil : P [])
    (blank : ∀ n ns, isBlankCode n = true → P ns → P (n :: ns))
    (lexeme : ∀ codes rest, IsLexeme codes rest → P rest → P (codes ++ rest)) :
    ∀ codes, P codes
  | [] => nil
  | n :: ns => by
    cases hb : isBlankCode n with
    | true => exact blank n ns hb (lexemes_induction nil blank lexeme ns)
    | false =>
      obtain ⟨codes, rest, he, h⟩ := exists_isLexeme hb ns
      have hlt : rest.length < ns.length + 1 := by
        have hl := congrArg List.length he
        have hpos := List.length_pos_of_ne_nil h.ne_nil
        rw [List.length_cons, List.length_append] at hl
        omega
      rw [he]
      exact lexeme codes rest h (lexemes_induction nil blank lexeme rest)
termination_by codes => codes.length

/-! ### How they are read -/

theorem scan_ofCodes_blank (hn : n < 0x110000) (hb : isBlankCode n = true) (ns : List Nat) :
    scan (Text.ofCodes (n :: ns)) = scan (Text.ofCodes ns) := by
  obtain ⟨c, halike, ho⟩ := exists_ofCode hn
  rw [← halike.blank] at hb
  rcases ho with ⟨ho, -⟩ | ⟨rfl, -⟩
  · rw [Text.ofCodes_cons, ho, List.singleton_append, scan_blank hb]
  · exact absurd hb (by decide)

theorem exists_ofCode_of_continues (hn : n < 0x110000) (hc : continuesWordCode n = true) :
    ∃ c, Text.ofCode n = [c] ∧ Alike c n := by
  obtain ⟨c, halike, ⟨ho, -⟩ | ⟨rfl, -⟩⟩ := exists_ofCode hn
  · exact ⟨c, ho, halike⟩
  · rw [← halike.continues] at hc
    exact absurd hc (by decide +kernel)

theorem continuesWord_of_mem_ofCodes (hn : ∀ n ∈ ns, n < 0x110000)
    (h : ∀ n ∈ ns, continuesWordCode n = true) : ∀ c ∈ Text.ofCodes ns, continuesWord c = true := by
  intro d hd
  obtain ⟨n, hm, hd⟩ := List.mem_flatMap.mp hd
  obtain ⟨c, ho, halike⟩ := exists_ofCode_of_continues (hn n hm) (h n hm)
  rw [ho, List.mem_singleton] at hd
  rw [hd, halike.continues]
  exact h n hm

theorem stops_ofCodes (hn : ∀ n ∈ ns, n < 0x110000)
    (h : ∀ n ∈ ns.head?, continuesWordCode n = false) : Stops (Text.ofCodes ns) := by
  cases ns with
  | nil => exact stops_nil
  | cons n ns =>
    obtain ⟨c, halike, ho⟩ := exists_ofCode (hn n List.mem_cons_self)
    have hc : continuesWord c = false := by
      rw [halike.continues]
      exact h n rfl
    rw [Text.ofCodes_cons]
    rcases ho with ⟨ho, -⟩ | ⟨-, d, ho⟩
    · rw [ho]
      exact stops_cons hc _
    · rw [ho]
      exact stops_cons hc _

/-- The codes are read as the token wherever they are one. -/
structure Covers (t : TypeToken) (codes : List Nat) : Prop where
  chars : t.chars = Text.ofCodes codes
  scan : ∀ rest, (∀ n ∈ rest, n < 0x110000) → IsLexeme codes rest →
    scan (Text.ofCodes (codes ++ rest)) = t :: scan (Text.ofCodes rest)

theorem exists_covers_of_isWord (hn : ∀ n ∈ codes, n < 0x110000) (hw : IsWord codes) :
    ∃ t, Covers t codes := by
  obtain @⟨n, ns, hs, hns⟩ := hw
  obtain ⟨hn, hlt⟩ := List.forall_mem_cons.mp hn
  obtain ⟨c, halike, ⟨ho, -⟩ | ⟨rfl, -⟩⟩ := exists_ofCode hn
  · have hchars : Text.ofCodes (n :: ns) = c :: Text.ofCodes ns := by
      rw [Text.ofCodes_cons, ho, List.singleton_append]
    have hnotes := notes_word (halike.starts.trans hs) (continuesWord_of_mem_ofCodes hlt hns)
    refine ⟨word c (Text.ofCodes ns), hchars.symm, fun rest hr hl => ?_⟩
    have hscan := hnotes.scan _ (stops_ofCodes hr (hl.head_of_isWord (.mk hs hns)))
    rwa [String.toList_ofList, ← hchars, ← Text.ofCodes_append] at hscan
  · rw [← halike.starts] at hs
    exact absurd hs (by decide)

theorem exists_covers_of_single (hn : n < 0x110000) (hb : isBlankCode n = false)
    (hs : startsWordCode n = false) : ∃ t, Covers t [n] := by
  obtain ⟨c, halike, ho⟩ := exists_ofCode hn
  rw [← halike.blank] at hb
  rw [← halike.starts] at hs
  have hchars : Text.ofCodes [n] = Text.ofCode n := List.flatMap_singleton _ _
  rcases ho with ⟨ho, hm⟩ | ⟨rfl, d, ho⟩
  · refine ⟨mark c, (hchars.trans ho).symm, fun rest _ _ => ?_⟩
    rw [Text.ofCodes_append, hchars, ho, List.singleton_append, scan_mark hb hs hm]
  · refine ⟨reserved d, (hchars.trans ho).symm, fun rest _ _ => ?_⟩
    rw [Text.ofCodes_append, hchars, ho]
    exact scan_reserved d _

theorem IsLexeme.exists_covers (hn : ∀ n ∈ codes, n < 0x110000) (h : IsLexeme codes rest) :
    ∃ t, Covers t codes := by
  cases h with
  | word hw _ => exact exists_covers_of_isWord hn hw
  | @single n _ hb hns =>
    refine exists_covers_of_single (hn n List.mem_cons_self) hb ?_
    by_contra hs
    exact hns [n] (List.prefix_append [n] _) (.mk (by simpa using hs) (List.forall_mem_nil _))

theorem IsLexeme.unblank (hn : ∀ n ∈ codes, n < 0x110000) (h : IsLexeme codes rest) :
    ∀ n ∈ codes, isBlankCode n = false := by
  cases h with
  | word hw _ =>
    obtain @⟨n, ns, hs, hns⟩ := hw
    intro m hm
    obtain ⟨c, halike, -⟩ := exists_ofCode (hn m hm)
    rw [← halike.blank]
    refine isBlank_of_continuesWord ?_
    rcases List.mem_cons.mp hm with rfl | hm
    · exact continuesWord_of_startsWord (halike.starts.trans hs)
    · exact halike.continues.trans (hns m hm)
  | single hb _ => simpa using hb

/-- The tokens are the text without its white space. -/
theorem flatMap_chars_scan (hn : ∀ n ∈ codes, n < 0x110000) :
    (scan (Text.ofCodes codes)).flatMap chars =
      Text.ofCodes (codes.filter (!isBlankCode ·)) := by
  induction codes using lexemes_induction with
  | nil => exact congrArg (List.flatMap chars) scan_nil
  | blank n ns hb ih =>
    obtain ⟨hlt, hns⟩ := List.forall_mem_cons.mp hn
    rw [scan_ofCodes_blank hlt hb, ih hns, List.filter_cons_of_neg (by simp [hb])]
  | lexeme codes rest h ih =>
    obtain ⟨hcodes, hrest⟩ := List.forall_mem_append.mp hn
    obtain ⟨t, ht⟩ := h.exists_covers hcodes
    have hkept : codes.filter (!isBlankCode ·) = codes :=
      List.filter_eq_self.mpr fun n hm => by simp [h.unblank hcodes n hm]
    rw [ht.scan rest hrest h, List.flatMap_cons, ht.chars, ih hrest, List.filter_append, hkept,
      Text.ofCodes_append]

/-- Where a token stands: behind the codes of the tokens before it, and in front of those of the
tokens after it. -/
theorem exists_lexeme_of_scan (hn : ∀ n ∈ codes, n < 0x110000) {before after : List TypeToken}
    {t : TypeToken} (h : scan (Text.ofCodes codes) = before ++ t :: after) :
    ∃ left lexeme right, codes = left ++ lexeme ++ right ∧ t.chars = Text.ofCodes lexeme ∧
      scan (Text.ofCodes left) = before ∧ scan (Text.ofCodes right) = after ∧
      IsLexeme lexeme right := by
  induction codes using lexemes_induction generalizing before with
  | nil =>
    rw [Text.ofCodes, List.flatMap_nil, scan_nil] at h
    simp at h
  | blank n ns hb ih =>
    obtain ⟨hlt, hns⟩ := List.forall_mem_cons.mp hn
    rw [scan_ofCodes_blank hlt hb] at h
    obtain ⟨left, lexeme, right, rfl, hchars, hleft, hright, hlexeme⟩ := ih hns h
    exact ⟨n :: left, lexeme, right, rfl, hchars, (scan_ofCodes_blank hlt hb left).trans hleft,
      hright, hlexeme⟩
  | lexeme codes rest hl ih =>
    obtain ⟨hcodes, hrest⟩ := List.forall_mem_append.mp hn
    obtain ⟨u, hu⟩ := hl.exists_covers hcodes
    rw [hu.scan rest hrest hl] at h
    cases before with
    | nil =>
      obtain ⟨rfl, rfl⟩ := List.cons.inj h
      exact ⟨[], codes, rest, rfl, hu.chars, scan_nil, rfl, hl⟩
    | cons b before =>
      obtain ⟨rfl, htail⟩ := List.cons.inj h
      obtain ⟨left, lexeme, right, rfl, hchars, hleft, hright, hlexeme⟩ := ih hrest htail
      rw [List.append_assoc] at hl hrest
      refine ⟨codes ++ left, lexeme, right, by simp, hchars, ?_, hright, hlexeme⟩
      rw [hu.scan left (List.forall_mem_append.mp hrest).1 hl.of_append, hleft]

/-- For every row of codes, the tokens of the text that holds it have all its codes that are not
white space, in their order. Each token covers codes that stand in a row, the tokens before and
after it are those of what is left and right of these, and it is the longest word that begins there,
or a single code where no word does. -/
theorem scan_covers_text (codes : List Nat) (h : ∀ n ∈ codes, n < 0x110000) :
    (scan (Text.ofCodes codes)).flatMap chars = Text.ofCodes (codes.filter (!isBlankCode ·)) ∧
    ∀ before t after, scan (Text.ofCodes codes) = before ++ t :: after →
      ∃ left lexeme right, codes = left ++ lexeme ++ right ∧ t.chars = Text.ofCodes lexeme ∧
        scan (Text.ofCodes left) = before ∧ scan (Text.ofCodes right) = after ∧
        IsLexeme lexeme right :=
  ⟨flatMap_chars_scan h, fun _ _ _ => exists_lexeme_of_scan h⟩

/-- `M<`, a wide blank, `a.b`, a half, the code of a stand-in, a blank, `>` and a line feed. -/
def asideCodes : List Nat :=
  [0x4d, 0x3c, 0xa0, 0x61, 0x2e, 0x62, 0xd800, 0xf4000, 0x20, 0x3e, 0xa]

theorem scan_covers_text_asideCodes : (∀ n ∈ asideCodes, n < 0x110000) ∧
    (scan (Text.ofCodes asideCodes)).flatMap chars =
      Text.ofCodes [0x4d, 0x3c, 0x61, 0x2e, 0x62, 0xd800, 0xf4000, 0x3e] ∧
    ∃ left lexeme right, asideCodes = left ++ lexeme ++ right ∧
      ['a', '.', 'b'] = Text.ofCodes lexeme ∧
      scan (Text.ofCodes left) = [word 'M' [], mark '<'] ∧
      scan (Text.ofCodes right) =
        [mark (Text.standIn 0xd800), reserved (Char.ofNat 0xf4000), mark '>'] ∧
      IsLexeme lexeme right := by
  have hn : ∀ n ∈ asideCodes, n < 0x110000 := by decide
  have hscan : scan (Text.ofCodes asideCodes) = [word 'M' [], mark '<'] ++ word 'a' ['.', 'b'] ::
      [mark (Text.standIn 0xd800), reserved (Char.ofNat 0xf4000), mark '>'] := by decide +kernel
  obtain ⟨hkept, hplaces⟩ := scan_covers_text asideCodes hn
  refine ⟨hn, ?_, hplaces _ _ _ hscan⟩
  rw [hkept]
  decide +kernel

end TypeToken

end FluentKotlin
