import Apake.Text.Units

/-!
# Texts come back from their units and bytes

No character is a surrogate, so the units of a text are paired as its characters were, and its UTF-8
form is decoded to the text itself.
-/

namespace Apake

namespace Units

/-- No character is a surrogate. -/
theorem isSurrogate_toNat (c : Char) : isSurrogate c.toNat = false := by
  have hvalid : c.toNat < 0xD800 ∨ 0xDFFF < c.toNat ∧ c.toNat < 0x110000 := c.valid
  simp only [isSurrogate, Bool.and_eq_false_iff, decide_eq_false_iff_not]
  omega

/-- The units of a character stand for its code point, whatever follows them. -/
theorem codePoints_ofChar_append (c : Char) (us : Units) :
    codePoints (ofChar c ++ us) = c.toNat :: codePoints us := by
  have hvalid : c.toNat < 0xD800 ∨ 0xDFFF < c.toNat ∧ c.toNat < 0x110000 := c.valid
  unfold ofChar ofCodePoint
  split
  · next hsmall =>
    have hunit : (UInt16.ofNat c.toNat).toNat = c.toNat := by
      rw [UInt16.toNat_ofNat']
      omega
    have hhigh : isHigh (UInt16.ofNat c.toNat) = false := by
      simp only [isHigh, Bool.and_eq_false_iff, decide_eq_false_iff_not, UInt16.le_iff_toNat_le,
        UInt16.lt_iff_toNat_lt, hunit, UInt16.reduceToNat]
      omega
    cases us with
    | nil => simp [codePoints, hunit]
    | cons v us => simp [codePoints, hhigh, hunit]
  · next hlarge =>
    have hfirst : (UInt16.ofNat (0xD800 + (c.toNat - 0x10000) / 0x400)).toNat =
        0xD800 + (c.toNat - 0x10000) / 0x400 := by
      rw [UInt16.toNat_ofNat']
      omega
    have hsecond : (UInt16.ofNat (0xDC00 + c.toNat % 0x400)).toNat = 0xDC00 + c.toNat % 0x400 := by
      rw [UInt16.toNat_ofNat']
      omega
    have hpair : (isHigh (UInt16.ofNat (0xD800 + (c.toNat - 0x10000) / 0x400)) &&
        isLow (UInt16.ofNat (0xDC00 + c.toNat % 0x400))) = true := by
      simp only [isHigh, isLow, Bool.and_eq_true, decide_eq_true_eq, UInt16.le_iff_toNat_le,
        UInt16.lt_iff_toNat_lt, hfirst, hsecond, UInt16.reduceToNat]
      omega
    rw [List.cons_append, List.cons_append, List.nil_append, codePoints, if_pos hpair, hfirst,
      hsecond, List.cons.injEq]
    exact ⟨by omega, rfl⟩

/-- The units of a text stand for its characters. -/
theorem codePoints_ofString (s : String) : (ofString s).codePoints = s.toList.map Char.toNat := by
  unfold ofString
  induction s.toList with
  | nil => rfl
  | cons c cs ih => rw [List.flatMap_cons, codePoints_ofChar_append, ih, List.map_cons]

/-- A text comes back from its units. -/
theorem toText_ofString (s : String) : (ofString s).toText = s := by
  unfold toText
  rw [codePoints_ofString, List.map_map]
  have hchars : s.toList.map ((fun n ↦ Char.ofNat (if isSurrogate n then 0xFFFD else n)) ∘
      Char.toNat) = s.toList := by
    refine List.map_id'' (fun c ↦ ?_) s.toList
    simp [isSurrogate_toNat, Char.ofNat_toNat]
  rw [hchars, String.ofList_toList]

/-- Texts differ as their units do. -/
theorem ofString_injective : Function.Injective ofString :=
  Function.LeftInverse.injective toText_ofString

end Units

/-- A text comes back from its UTF-8 form. -/
theorem Bytes.fromUTF8?_ofString (s : String) :
    String.fromUTF8? (Bytes.ofString s).toByteArray = some s := by
  have hbytes : (Bytes.ofString s).toByteArray = s.toByteArray := String.utf8Encode_toList
  unfold String.fromUTF8?
  rw [hbytes, dif_pos s.isValidUTF8]
  rfl

end Apake
