/-! # Codes of characters

A text is a row of codes. Most of them are characters, and the others are halves: a character
outside of the first plane can be given as a high half and a low half. A text holds a half as a
stand-in, a private character set aside for it, and the character of a stand-in itself has a mark in
front of it. Two halves in a row stay two in a text, and what is written out joins them.
-/

namespace FluentKotlin.Text

def isHighHalf (code : Nat) : Bool := 0xd800 ≤ code && code < 0xdc00

def isLowHalf (code : Nat) : Bool := 0xdc00 ≤ code && code < 0xe000

def isHalf (code : Nat) : Bool := 0xd800 ≤ code && code < 0xe000

def joinHalves (high low : Nat) : Nat := 0x10000 + (high - 0xd800) * 0x400 + (low - 0xdc00)

/-- The stand-ins are two thousand and forty-eight characters from this one on. -/
def firstStandIn : Nat := 0xf4000

/-- The code of the mark, which follows the stand-ins. -/
def markCode : Nat := 0xf4800

def mark : Char := Char.ofNat markCode

/-- Whether the character of a code needs the mark. -/
def isReserved (code : Nat) : Bool := firstStandIn ≤ code && code ≤ markCode

def standIn (half : Nat) : Char := Char.ofNat (firstStandIn + (half - 0xd800))

/-- How a text holds a code. -/
def ofCode (code : Nat) : List Char :=
  if isHalf code then [standIn code]
  else if isReserved code then [mark, Char.ofNat code]
  else [Char.ofNat code]

/-- The code of a character that has no mark in front of it. -/
def codeOf (c : Char) : Nat :=
  let n := c.toNat
  if firstStandIn ≤ n && n < markCode then n - firstStandIn + 0xd800 else n

def ofCodes (codes : List Nat) : List Char := codes.flatMap ofCode

def codes : List Char → List Nat
  | [] => []
  | [c] => [codeOf c]
  | c :: d :: cs => if c = mark then d.toNat :: codes cs else codeOf c :: codes (d :: cs)

def codesOf (s : String) : List Nat := codes s.toList

/-- The characters that hold the first code. -/
def firstCode (cs : List Char) : List Char := cs.take (if cs.head? = some mark then 2 else 1)

/-- The codes with every high half joined to a low half after it. -/
def joined : List Nat → List Nat
  | a :: b :: codes =>
    if isHighHalf a && isLowHalf b then joinHalves a b :: joined codes
    else a :: joined (b :: codes)
  | codes => codes

def holdsHalf (s : String) : Bool := (codesOf s).any isHalf

/-- Texts are ordered by their codes, and by their characters where a mark stands idle in one. -/
def before (s t : String) : Bool :=
  decide (codesOf s < codesOf t) || (codesOf s == codesOf t && decide (s < t))

theorem toNat_ofNat {n : Nat} (h : n.isValidChar) : (Char.ofNat n).toNat = n := by
  rw [Char.ofNat, dif_pos h]
  rfl

theorem ofCodes_cons (n : Nat) (ns : List Nat) : ofCodes (n :: ns) = ofCode n ++ ofCodes ns :=
  List.flatMap_cons

theorem ofCodes_append (ms ns : List Nat) : ofCodes (ms ++ ns) = ofCodes ms ++ ofCodes ns :=
  List.flatMap_append

theorem isHalf_iff {n : Nat} : isHalf n = true ↔ 0xd800 ≤ n ∧ n < 0xe000 := by
  simp [isHalf]

theorem isReserved_iff {n : Nat} : isReserved n = true ↔ firstStandIn ≤ n ∧ n ≤ markCode := by
  simp [isReserved]

theorem toNat_standIn {n : Nat} (h : isHalf n = true) :
    (standIn n).toNat = firstStandIn + (n - 0xd800) := by
  have hu := (isHalf_iff.1 h).2
  exact toNat_ofNat (by unfold Nat.isValidChar firstStandIn; omega)

/-- The code of a stand-in is its half. -/
theorem codeOf_standIn {n : Nat} (h : isHalf n = true) : codeOf (standIn n) = n := by
  obtain ⟨hl, hu⟩ := isHalf_iff.1 h
  have hs : firstStandIn + (n - 0xd800) < markCode := by
    unfold firstStandIn markCode
    omega
  unfold codeOf
  simp [toNat_standIn h, hs]
  omega

theorem toNat_mark : mark.toNat = markCode := toNat_ofNat (by decide)

theorem codes_mark (d : Char) (cs : List Char) : codes (mark :: d :: cs) = d.toNat :: codes cs := by
  simp [codes]

theorem codes_of_ne_mark {c : Char} (h : c ≠ mark) (cs : List Char) :
    codes (c :: cs) = codeOf c :: codes cs := by
  cases cs with
  | nil => rfl
  | cons d ds => simp [codes, h]

/-- The codes of stand-ins are reserved. -/
theorem isReserved_standIn {n : Nat} (h : isHalf n = true) :
    isReserved (standIn n).toNat = true := by
  have hu := (isHalf_iff.1 h).2
  rw [toNat_standIn h, isReserved_iff]
  unfold firstStandIn markCode
  omega

theorem standIn_ne_mark {n : Nat} (h : isHalf n = true) : standIn n ≠ mark := by
  intro he
  have hu := (isHalf_iff.1 h).2
  have hs := toNat_standIn h
  rw [he, toNat_mark] at hs
  unfold firstStandIn markCode at hs
  omega

/-- Every code that is no half is one of a character. -/
theorem toNat_ofNat_of_not_isHalf {n : Nat} (h : n < 0x110000) (hn : ¬ isHalf n = true) :
    (Char.ofNat n).toNat = n := by
  refine toNat_ofNat ?_
  have := mt isHalf_iff.2 hn
  unfold Nat.isValidChar
  omega

theorem ne_mark_of_not_isReserved {c : Char} (h : ¬ isReserved c.toNat = true) : c ≠ mark := by
  rintro rfl
  exact h (by rw [toNat_mark]; decide)

/-- A text holds a code in such a way that it can be told from what follows. -/
theorem codes_ofCode {n : Nat} (h : n < 0x110000) (cs : List Char) :
    codes (ofCode n ++ cs) = n :: codes cs := by
  unfold ofCode
  by_cases hn : isHalf n
  · rw [if_pos hn, List.singleton_append, codes_of_ne_mark (standIn_ne_mark hn), codeOf_standIn hn]
  · have hc := toNat_ofNat_of_not_isHalf h hn
    rw [if_neg hn]
    by_cases hr : isReserved n
    · rw [if_pos hr, List.cons_append, List.singleton_append, codes_mark, hc]
    · rw [if_neg hr]
      have hm : Char.ofNat n ≠ mark := ne_mark_of_not_isReserved (by rwa [hc])
      rw [List.singleton_append, codes_of_ne_mark hm]
      have hplain : codeOf (Char.ofNat n) = n := by
        have := mt isReserved_iff.2 hr
        unfold firstStandIn markCode at this
        simp only [codeOf, hc, firstStandIn, markCode, Bool.and_eq_true, decide_eq_true_eq]
        rw [if_neg (by omega)]
      rw [hplain]

/-- A text can hold every row of codes. -/
theorem codes_ofCodes {ns : List Nat} (h : ∀ n ∈ ns, n < 0x110000) : codes (ofCodes ns) = ns := by
  induction ns with
  | nil => rfl
  | cons n ns ih =>
    have hn := h n List.mem_cons_self
    have hs := ih fun m hm => h m (List.mem_cons_of_mem n hm)
    rw [ofCodes_cons, codes_ofCode hn, hs]

end FluentKotlin.Text
