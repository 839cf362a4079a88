import Apake.Bytes
import Apake.Error

/-!
# Fixed-width numbers and length-prefixed strings

Numbers are written in a fixed number of big-endian bytes, strings behind their length.  The main
statements say exactly when a number or a length does not fit, and that a length-prefixed string is
parsed uniquely in front of anything that follows it.
-/

namespace Apake.Framing

attribute [local instance (2000)] instPowNat

/-- The width from which on there is no memory for a field. -/
def widthLimit : Int := 68719476736

/-- Writes a number in `width` big-endian bytes.  A width that is no machine word is refused first,
then a negative one and one without memory for it, then a number that is negative or too large. -/
def number (value width : Int) : Except Error Bytes :=
  if width < -9223372036854775808 ∨ 9223372036854775775 ≤ width then .error .overflow
  else if width < 0 then .error .negativeWidth
  else if widthLimit ≤ width then .error .outOfMemory
  else if value < 0 ∨ 256 ^ width.toNat ≤ value.toNat then .error .overflow
  else .ok (Bytes.ofNat width.toNat value.toNat)

/-- Writes a string behind its length, which takes `width` bytes. -/
def vector (data : Bytes) (width : Nat := 2) : Except Error Bytes :=
  if data.length < 256 ^ width then .ok (Bytes.ofNat width data.length ++ data)
  else .error .overflow

/-- Combines two strings of one length by exclusive or. -/
def mask (a b : Bytes) : Except Error Bytes :=
  if a.length = b.length then .ok (a.xor b) else .error .unequalLengths

theorem number_ofNat {value width : Nat} (h : width < widthLimit) :
    number value width =
      if 256 ^ width ≤ value then .error .overflow else .ok (Bytes.ofNat width value) := by
  unfold widthLimit at h
  have hword : ¬ ((width : Int) < -9223372036854775808 ∨ 9223372036854775775 ≤ (width : Int)) := by
    omega
  have hwidth : ¬ (width : Int) < 0 := by omega
  have hmemory : ¬ widthLimit ≤ (width : Int) := by unfold widthLimit; omega
  have hvalue : ¬ (value : Int) < 0 := by omega
  simp only [number, hword, hwidth, hmemory, hvalue, if_false, false_or, Int.toNat_natCast]

theorem number_ofNat_eq_ok_iff {value width : Nat} {bs : Bytes} (h : width < widthLimit) :
    number value width = .ok bs ↔ value < 256 ^ width ∧ bs = Bytes.ofNat width value := by
  rw [number_ofNat h]
  split
  · rename_i hlarge
    simp [Nat.not_lt.mpr hlarge]
  · rename_i hsmall
    simp [Nat.not_le.mp hsmall, eq_comm]

theorem number_ofNat_eq_error_iff {value width : Nat} {e : Error} (h : width < widthLimit) :
    number value width = .error e ↔ 256 ^ width ≤ value ∧ e = .overflow := by
  rw [number_ofNat h]
  split
  · rename_i hlarge
    simp [hlarge, eq_comm]
  · rename_i hsmall
    simp [hsmall]

theorem vector_eq_ok_iff {data bs : Bytes} {width : Nat} :
    vector data width = .ok bs ↔
      data.length < 256 ^ width ∧ bs = Bytes.ofNat width data.length ++ data := by
  unfold vector
  split <;> simp [*, eq_comm]

theorem vector_eq_error_iff {data : Bytes} {width : Nat} {e : Error} :
    vector data width = .error e ↔ 256 ^ width ≤ data.length ∧ e = .overflow := by
  unfold vector
  split
  · rename_i hfits
    simp [Nat.not_le.mpr hfits]
  · rename_i hfits
    simp [Nat.not_lt.mp hfits, eq_comm]

/-- Whatever follows it, a length-prefixed string can be parsed in one way only. -/
theorem vector_append_inj {a b x y r s : Bytes} {width : Nat} (ha : vector a width = .ok x)
    (hb : vector b width = .ok y) (h : x ++ r = y ++ s) : a = b ∧ r = s := by
  obtain ⟨hla, rfl⟩ := vector_eq_ok_iff.mp ha
  obtain ⟨hlb, rfl⟩ := vector_eq_ok_iff.mp hb
  rw [List.append_assoc, List.append_assoc] at h
  obtain ⟨hlengths, hrest⟩ := List.append_inj h (by simp only [Bytes.length_ofNat])
  have hlength : a.length = b.length := by
    rw [← Bytes.toNat_ofNat hla, ← Bytes.toNat_ofNat hlb, hlengths]
  exact List.append_inj hrest hlength

end Apake.Framing
