import FluentKotlin.Store.Tree
import Mathlib.Data.List.Basic

/-! # Names of ordinary characters

A name without halves of characters has the bytes of its characters one after the other. They are
read back as these characters, so its entry is shown by the name itself.
-/

namespace FluentKotlin

theorem loop_toList_eq_drop (bs : ByteArray) (i : Nat) (found : List UInt8) :
    ByteArray.toList.loop bs i found = found.reverse ++ bs.data.toList.drop i := by
  fun_induction ByteArray.toList.loop bs i found with
  | case1 i found hi ih =>
    have hl : i < bs.data.toList.length := by simpa using hi
    have hb : bs.get! i = bs.data.toList[i] := by
      show bs.data[i]! = _
      rw [getElem!_pos bs.data i hi, Array.getElem_toList]
    rw [ih, List.drop_eq_getElem_cons hl, hb]
    simp
  | case2 i found hi =>
    have hl : bs.data.toList.length ≤ i := by simpa using hi
    rw [List.drop_eq_nil_of_le hl, List.append_nil]

theorem toList_toByteArray (l : List UInt8) : l.toByteArray.toList = l := by
  unfold ByteArray.toList
  rw [loop_toList_eq_drop, List.data_toByteArray]
  rfl

theorem fromUTF8?_toByteArray (s : String) : String.fromUTF8? s.toByteArray = some s := by
  unfold String.fromUTF8?
  rw [dif_pos s.isValidUTF8]
  rfl

theorem toByteArray_singleton (c : Char) :
    (String.singleton c).toByteArray = (String.utf8EncodeChar c).toByteArray := by
  rw [String.toByteArray_singleton, List.utf8Encode_singleton]

namespace EntryName

theorem exists_utf8EncodeChar_eq_cons (c : Char) :
    ∃ b bs, String.utf8EncodeChar c = b :: bs ∧ formLength b = bs.length + 1 := by
  have hv := c.toNat_val
  have hc : c.toNat < 0x110000 := by
    have := c.valid
    simp [UInt32.isValidChar, Nat.isValidChar] at this
    omega
  fun_cases String.utf8EncodeChar c with
  | case1 v h =>
    refine ⟨_, _, rfl, ?_⟩
    simp only [formLength, UInt8.lt_iff_toNat_lt, UInt8.toNat_ofNat', UInt8.reduceToNat]
    rw [if_pos (by omega)]
    rfl
  | case2 v h h' =>
    refine ⟨_, _, rfl, ?_⟩
    simp only [formLength, UInt8.lt_iff_toNat_lt, UInt8.toNat_ofNat', UInt8.reduceToNat]
    rw [if_neg (by omega), if_pos (by omega)]
    rfl
  | case3 v h h' h'' =>
    refine ⟨_, _, rfl, ?_⟩
    simp only [formLength, UInt8.lt_iff_toNat_lt, UInt8.toNat_ofNat', UInt8.reduceToNat]
    rw [if_neg (by omega), if_neg (by omega), if_pos (by omega)]
    rfl
  | case4 v h h' h'' =>
    refine ⟨_, _, rfl, ?_⟩
    simp only [formLength, UInt8.lt_iff_toNat_lt, UInt8.toNat_ofNat', UInt8.reduceToNat]
    rw [if_neg (by omega), if_neg (by omega), if_neg (by omega)]
    rfl

theorem firstChar?_utf8EncodeChar_append (c : Char) (bs : List UInt8) :
    firstChar? (String.utf8EncodeChar c ++ bs) = some c := by
  obtain ⟨b, rest, hb, hl⟩ := exists_utf8EncodeChar_eq_cons c
  have htake : (String.utf8EncodeChar c ++ bs).take (formLength b) = String.utf8EncodeChar c := by
    rw [hl, hb]
    exact List.take_left' (by simp)
  have hhead : (String.utf8EncodeChar c ++ bs).head? = some b := by
    rw [hb]
    rfl
  have harray : ByteArray.mk (String.utf8EncodeChar c).toArray =
      (String.singleton c).toByteArray := by
    rw [toByteArray_singleton]
    exact ByteArray.ext List.data_toByteArray.symm
  unfold firstChar?
  rw [hhead, Option.bind_eq_bind, Option.bind_some, htake]
  dsimp only
  rw [harray, fromUTF8?_toByteArray]
  simp

/-- The character is no stand-in for a half of a character, and no mark of one. -/
def Ordinary (c : Char) : Prop := Text.isReserved c.toNat = false

theorem isHalf_toNat (c : Char) : Text.isHalf c.toNat = false := by
  rw [Bool.eq_false_iff, Ne, Text.isHalf_iff]
  rcases c.valid with h | ⟨h, _⟩
  · show ¬ (_ ≤ c.val.toNat ∧ c.val.toNat < _)
    omega
  · show ¬ (_ ≤ c.val.toNat ∧ c.val.toNat < _)
    omega

theorem Ordinary.ne_mark {c : Char} (h : Ordinary c) : c ≠ Text.mark := by
  rintro rfl
  revert h
  unfold Ordinary
  rw [Text.toNat_mark]
  decide

theorem Ordinary.codeOf {c : Char} (h : Ordinary c) : Text.codeOf c = c.toNat := by
  have hr := mt Text.isReserved_iff.mpr (Bool.eq_false_iff.mp h)
  unfold Text.codeOf
  dsimp only
  rw [if_neg]
  simp only [Bool.and_eq_true, decide_eq_true_eq]
  omega

theorem Ordinary.ofCode {c : Char} (h : Ordinary c) : Text.ofCode c.toNat = [c] := by
  unfold Text.ofCode
  rw [isHalf_toNat, h, Char.ofNat_toNat]
  rfl

variable {cs : List Char}

theorem codes_eq_map (h : ∀ c ∈ cs, Ordinary c) : Text.codes cs = cs.map Char.toNat := by
  induction cs with
  | nil => rfl
  | cons c cs ih =>
    obtain ⟨hc, hcs⟩ := List.forall_mem_cons.mp h
    rw [Text.codes_of_ne_mark hc.ne_mark, hc.codeOf, ih hcs]
    rfl

theorem ofCodes_map_toNat (h : ∀ c ∈ cs, Ordinary c) : Text.ofCodes (cs.map Char.toNat) = cs := by
  induction cs with
  | nil => rfl
  | cons c cs ih =>
    obtain ⟨hc, hcs⟩ := List.forall_mem_cons.mp h
    have hrest := ih hcs
    unfold Text.ofCodes at hrest ⊢
    rw [List.map_cons, List.flatMap_cons, hc.ofCode, hrest]
    rfl

theorem codeBytes_toNat (c : Char) : codeBytes c.toNat = some (String.utf8EncodeChar c) := by
  unfold codeBytes
  rw [isHalf_toNat, if_neg Bool.false_ne_true, Char.ofNat_toNat]
  show some (String.singleton c).toByteArray.toList = _
  rw [toByteArray_singleton, toList_toByteArray]

theorem mapM_codeBytes (cs : List Char) :
    (cs.map Char.toNat).mapM codeBytes = some (cs.map String.utf8EncodeChar) := by
  induction cs with
  | nil => rfl
  | cons c cs ih =>
    rw [List.map_cons, List.mapM_cons, codeBytes_toNat, ih]
    rfl

theorem length_le_utf8 (cs : List Char) :
    cs.length ≤ (cs.map String.utf8EncodeChar).flatten.length := by
  induction cs with
  | nil => exact Nat.le_refl _
  | cons c cs ih =>
    have hc := c.utf8Size_pos
    rw [List.map_cons, List.flatten_cons, List.length_append, String.length_utf8EncodeChar,
      List.length_cons]
    omega

/-- The codes of characters are read back from their bytes. -/
theorem codesOfBytes_utf8 {fuel : Nat} (h : cs.length ≤ fuel) :
    codesOfBytes fuel (cs.map String.utf8EncodeChar).flatten = cs.map Char.toNat := by
  induction cs generalizing fuel with
  | nil =>
    cases fuel <;> rfl
  | cons c cs ih =>
    have hpos : 1 ≤ fuel := Nat.le_trans (Nat.succ_le_succ (Nat.zero_le _)) h
    obtain ⟨fuel, rfl⟩ := Nat.exists_eq_add_of_le' hpos
    obtain ⟨b, bs, hb, hl⟩ := exists_utf8EncodeChar_eq_cons c
    have hfirst := firstChar?_utf8EncodeChar_append c (cs.map String.utf8EncodeChar).flatten
    rw [List.map_cons, List.flatten_cons, hb] at *
    rw [List.cons_append, codesOfBytes]
    unfold firstCode
    rw [← List.cons_append, hfirst, hl]
    dsimp only
    rw [List.cons_append, List.drop_succ_cons, List.drop_left, ih (by simpa using h)]
    rfl

/-- The entry of a name of ordinary characters is shown by this name. -/
theorem shown_eq_self {name : String} (h : ∀ c ∈ name.toList, Ordinary c) : shown name = name := by
  have hbytes : bytes name = some (name.toList.map String.utf8EncodeChar).flatten := by
    unfold bytes Text.codesOf
    rw [codes_eq_map h, mapM_codeBytes]
    rfl
  unfold shown
  rw [hbytes]
  show ofBytes _ = name
  unfold ofBytes
  rw [codesOfBytes_utf8 (length_le_utf8 _), ofCodes_map_toNat h, String.ofList_toList]

end EntryName

def Path.Ordinary (p : Path) : Prop := ∀ s ∈ p.names, ∀ c ∈ s.toList, EntryName.Ordinary c

theorem Filing.shown_eq_self {path : Path} (h : path.Ordinary) : Filing.shown path = path := by
  unfold Filing.shown
  split
  · have hn : path.names.map EntryName.shown = path.names :=
      (List.map_congr_left fun s hs => EntryName.shown_eq_self (h s hs)).trans (List.map_id _)
    rw [hn]
  · rfl

end FluentKotlin
