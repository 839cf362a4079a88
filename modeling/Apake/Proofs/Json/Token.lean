import Apake.Json.Printer
import Apake.Json.Reader

/-!
# Tokens are read back

A quoted text is read back unit by unit, a whole number digit by digit; neither reaches into what
follows it.
-/

namespace Apake.Json

/-- A hexadecimal digit has the value that it was written for. -/
theorem hexValue?_hexDigit (n : Nat) : hexValue? (hexDigit n) = some (n % 16) := by
  have htable : ∀ d < 16, hexValue? (Nat.digitChar d) = some d := by decide
  exact htable _ (Nat.mod_lt n (by decide))

/-- Four hexadecimal digits have the value that they were written for. -/
theorem hexUnit?_hexDigit (u : UInt16) :
    hexUnit? (hexDigit (u.toNat / 4096)) (hexDigit (u.toNat / 256)) (hexDigit (u.toNat / 16))
      (hexDigit u.toNat) = some u := by
  have hu := u.toNat_lt
  have hvalue : (u.toNat / 4096 % 16 * 16 + u.toNat / 256 % 16) * 256 + u.toNat / 16 % 16 * 16 +
      u.toNat % 16 = u.toNat := by omega
  simp only [hexUnit?, hexValue?_hexDigit, bind, Option.bind, hvalue]
  exact congrArg some UInt16.ofNat_toNat

/-- A character that is neither a quote nor a backslash nor a control character stands for itself. -/
theorem quoted_cons {start index : Nat} {done : Units} {c : Char} {rest : List Char}
    (hquote : c ≠ '"') (hslash : c ≠ '\\') (hcontrol : ¬ c.toNat < 32) :
    quoted start done index (c :: rest) =
      quoted start ((Units.ofChar c).reverse ++ done) (index + 1) rest := by
  rw [quoted, if_neg hcontrol] <;> simp_all

/-- An escape of one letter stands for its unit. -/
theorem quoted_letter {start index : Nat} {done : Units} {e : Char} {u : UInt16} {rest : List Char}
    (h : escape? e = some u) :
    quoted start done index ('\\' :: e :: rest) = quoted start (u :: done) (index + 2) rest := by
  have hne : e ≠ 'u' := by
    rintro rfl
    cases h
  rw [quoted, h] <;> simp [hne]

/-- A unit is read back from between quotes. -/
theorem quoted_escape (start index : Nat) (done : Units) (u : UInt16) {rest : List Char}
    (hrest : rest ≠ []) :
    quoted start done index (escape u ++ rest) =
      quoted start (u :: done) (index + (escape u).length) rest := by
  have hletter {n : UInt16} (hu : u.toNat = n.toNat) : u = n := UInt16.toNat_inj.mp hu
  unfold escape
  dsimp only
  split
  · next h => exact quoted_letter (by rw [hletter (n := 34) h]; rfl)
  split
  · next h => exact quoted_letter (by rw [hletter (n := 92) h]; rfl)
  split
  · next h => exact quoted_letter (by rw [hletter (n := 10) h]; rfl)
  split
  · next h => exact quoted_letter (by rw [hletter (n := 13) h]; rfl)
  split
  · next h => exact quoted_letter (by rw [hletter (n := 9) h]; rfl)
  split
  · next h => exact quoted_letter (by rw [hletter (n := 12) h]; rfl)
  split
  · next h => exact quoted_letter (by rw [hletter (n := 8) h]; rfl)
  split
  · next hquote hslash _ _ _ _ _ h =>
    have hchar : (Char.ofNat u.toNat).toNat = u.toNat :=
      have hascii : ∀ n < 127, (Char.ofNat n).toNat = n := by decide
      hascii _ (by omega)
    have hne {c : Char} (hc : u.toNat ≠ c.toNat) : Char.ofNat u.toNat ≠ c := by
      rintro rfl
      exact hc hchar.symm
    have hunit : Units.ofChar (Char.ofNat u.toNat) = [u] := by
      unfold Units.ofChar Units.ofCodePoint
      rw [hchar, if_pos (by omega), UInt16.ofNat_toNat]
    rw [List.singleton_append, quoted_cons (hne hquote) (hne hslash) (by omega), hunit]
    rfl
  · cases rest with
    | nil => exact absurd rfl hrest
    | cons c rest =>
      show quoted start done index ('\\' :: 'u' :: _ :: _ :: _ :: _ :: c :: rest) = _
      rw [quoted, hexUnit?_hexDigit]
      rfl

/-- A text is read back from between its quotes. -/
theorem quoted_flatMap (start index : Nat) (done us : Units) (rest : List Char) :
    quoted start done index (us.flatMap escape ++ '"' :: rest) =
      .ok (done.reverse ++ us, ⟨index + (us.flatMap escape).length + 1, rest⟩) := by
  induction us generalizing done index with
  | nil => simp [quoted]
  | cons u us ih =>
    rw [List.flatMap_cons, List.append_assoc, quoted_escape _ _ _ _ (by simp), ih]
    simp [Nat.add_assoc]

/-- A quoted text is read back, wherever it stands. -/
theorem name_quote (index : Nat) (us : Units) (rest : List Char) :
    name ⟨index, quote us ++ rest⟩ = .ok (us, ⟨index + (quote us).length, rest⟩) := by
  have hlength : index + 1 + (us.flatMap escape).length + 1 = index + (quote us).length := by
    simp [quote]
    omega
  have hrest : quote us ++ rest = '"' :: (us.flatMap escape ++ '"' :: rest) := by simp [quote]
  unfold name
  rw [hrest]
  show quoted index [] (index + 1) (us.flatMap escape ++ '"' :: rest) = _
  rw [quoted_flatMap, hlength]
  rfl

/-- The digits of a whole number are digits. -/
theorem isDigit_of_mem {n : Nat} {c : Char} (h : c ∈ Nat.toDigits 10 n) : isDigit c = true := by
  have hdigit := Nat.isDigit_of_mem_toDigits (by decide) (by decide) h
  simp only [Char.isDigit, Bool.and_eq_true, decide_eq_true_eq, ge_iff_le,
    UInt32.le_iff_toNat_le] at hdigit
  simp only [isDigit, Bool.and_eq_true, decide_eq_true_eq]
  exact hdigit

/-- The digits of a whole number spell it. -/
theorem digitsValue_toDigits (n : Nat) : digitsValue (Nat.toDigits 10 n) = n := by
  have hspelled := Nat.ofDigitChars_ten_toDigits (n := n)
  rw [Nat.ofDigitChars_eq_foldl] at hspelled
  simpa [digitsValue, Nat.mul_comm] using hspelled

/-- Only zero is written with a zero in front. -/
theorem eq_zero_of_head? {n : Nat} (h : (Nat.toDigits 10 n).head? = some '0') : n = 0 := by
  induction n using Nat.strongRecOn with
  | ind n ih =>
    by_cases hsmall : n < 10
    · have hdigits : ∀ d < 10, (Nat.digitChar d = '0' ↔ d = 0) := by decide
      rw [Nat.toDigits_of_lt_base hsmall, List.head?_cons, Option.some.injEq] at h
      exact (hdigits n hsmall).mp h
    · obtain ⟨c, cs, hcs⟩ :=
        List.exists_cons_of_ne_nil (Nat.toDigits_ne_nil (n := n / 10) (b := 10))
      rw [Nat.toDigits_of_base_le (by decide) (by omega), hcs] at h
      have hhead : (Nat.toDigits 10 (n / 10)).head? = some '0' := by
        rw [hcs]
        exact h
      have hzero := ih (n / 10) (by omega) hhead
      omega

/-- Whether a number ends where a text begins. -/
def Ends (rest : List Char) : Prop :=
  ∀ c ∈ rest.head?, isDigit c = false ∧ c ≠ '.' ∧ c ≠ 'e' ∧ c ≠ 'E'

/-- The digits of a whole number are taken in as far as they reach. -/
theorem wholePart?_toDigits (n : Nat) {rest : List Char} (hrest : Ends rest) :
    wholePart? (Nat.toDigits 10 n ++ rest) = some (Nat.toDigits 10 n, rest) := by
  obtain ⟨c, cs, hcs⟩ := List.exists_cons_of_ne_nil (Nat.toDigits_ne_nil (n := n) (b := 10))
  have hmem {d : Char} (h : d ∈ c :: cs) : isDigit d = true := isDigit_of_mem (n := n) (hcs ▸ h)
  have hstops : rest.takeWhile isDigit = [] ∧ rest.dropWhile isDigit = rest := by
    cases rest with
    | nil => exact ⟨rfl, rfl⟩
    | cons d rest =>
      have hd : isDigit d = false := (hrest d rfl).1
      simp [hd]
  rw [hcs, List.cons_append, wholePart?]
  split
  · next hzero =>
    subst hzero
    obtain rfl : n = 0 := eq_zero_of_head? (by rw [hcs]; rfl)
    cases hcs
    rfl
  · rw [if_pos (hmem (List.mem_cons_self ..)), List.takeWhile_append_of_pos fun d hd ↦
      hmem (List.mem_cons_of_mem c hd), List.dropWhile_append_of_pos fun d hd ↦
      hmem (List.mem_cons_of_mem c hd), hstops.1, hstops.2, List.append_nil]

/-- Neither a fraction nor an exponent begins where a number ends. -/
theorem Ends.parts {rest : List Char} (hrest : Ends rest) :
    fractionPart rest = ([], rest) ∧ exponentPart rest = (none, rest) := by
  cases rest with
  | nil => exact ⟨rfl, rfl⟩
  | cons c rest =>
    obtain ⟨-, hpoint, he, hE⟩ := hrest c rfl
    constructor
    · rw [fractionPart]
      simp [hpoint]
    · simp [exponentPart, he, hE]

/-- A natural number is written as its digits. -/
theorem toList_toString_ofNat (m : Nat) : (toString (Int.ofNat m)).toList = Nat.toDigits 10 m :=
  Nat.toList_repr

/-- A negative number is written as a sign and the digits of its size. -/
theorem toList_toString_negSucc (m : Nat) :
    (toString (Int.negSucc m)).toList = '-' :: Nat.toDigits 10 (m + 1) := by
  show ("-" ++ Nat.repr (m + 1)).toList = _
  rw [String.toList_append, Nat.toList_repr]
  rfl

/-- A whole number of no more digits than are read is read back, wherever it ends. -/
theorem number_toString (index : Nat) {n : Int} {rest : List Char} (hrest : Ends rest)
    (hlimit : (Nat.toDigits 10 n.natAbs).length ≤ digitLimit) :
    number ⟨index, (toString n).toList ++ rest⟩ =
      .ok (integer n, ⟨index + (toString n).toList.length, rest⟩) := by
  have hwhole := wholePart?_toDigits n.natAbs hrest
  obtain ⟨hfraction, hexponent⟩ := hrest.parts
  have hshort := Nat.not_lt.mpr hlimit
  cases n with
  | ofNat m =>
    simp only [Int.ofNat_eq_natCast, Int.natAbs_natCast] at hwhole hshort
    obtain ⟨c, cs, hcs⟩ := List.exists_cons_of_ne_nil (Nat.toDigits_ne_nil (n := m) (b := 10))
    have hc : c ≠ '-' := by
      rintro rfl
      have hdigit : isDigit '-' = true := isDigit_of_mem (n := m) (hcs ▸ List.mem_cons_self ..)
      cases hdigit
    have hdigits := digitsValue_toDigits m
    rw [toList_toString_ofNat]
    unfold number
    split
    next negative digits hsign =>
    obtain ⟨rfl, rfl⟩ : false = negative ∧ Nat.toDigits 10 m ++ rest = digits := by
      dsimp only at hsign
      rw [hcs] at hsign ⊢
      split at hsign
      · next h => exact absurd (List.cons.inj h).1 hc
      · exact Prod.mk.inj hsign
    simp only [hwhole, hfraction, hexponent, hshort, List.isEmpty_nil, Option.isNone_none,
      Bool.and_self, if_true, if_false, hdigits, List.length_append, Bool.false_eq_true,
      Nat.add_sub_cancel, Int.ofNat_eq_natCast]
  | negSucc m =>
    rw [toList_toString_negSucc]
    have hdigits := digitsValue_toDigits (m + 1)
    simp only [Int.natAbs_negSucc] at hwhole hshort
    unfold number
    simp only [List.cons_append, hwhole, hfraction, hexponent, hshort, List.isEmpty_nil,
      Option.isNone_none, Bool.and_self, if_true, if_false, hdigits, List.length_cons,
      List.length_append]
    congr 2
    congr 1
    omega

end Apake.Json
