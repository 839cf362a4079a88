import Apake.Wire.Base64

/-!
# Base64 text is read back

Each group of four characters gives back the three bytes that it was made of, and the pads end a
text where its last bytes are complete.
-/

namespace Apake.Base64

/-- The character of a six-bit value is one of ASCII, no pad, and has that value. -/
theorem digit_spec : ∀ v < 64,
    (digit v).toNat < 128 ∧ digit v ≠ '=' ∧ value? (digit v) = some v := by
  decide

/-- A text holds nothing but the characters of six-bit values and pads. -/
theorem mem_encode {bs : Bytes} {c : Char} (h : c ∈ encode bs) :
    c = '=' ∨ ∃ v < 64, c = digit v := by
  induction bs using encode.induct with
  | case1 a b d rest ih =>
    have ha := a.toNat_lt
    have hb := b.toNat_lt
    have hd := d.toNat_lt
    simp only [encode, List.mem_cons] at h
    rcases h with h | h | h | h | h
    · exact .inr ⟨_, by omega, h⟩
    · exact .inr ⟨_, by omega, h⟩
    · exact .inr ⟨_, by omega, h⟩
    · exact .inr ⟨_, by omega, h⟩
    · exact ih h
  | case2 a b =>
    have ha := a.toNat_lt
    have hb := b.toNat_lt
    simp only [encode, List.mem_cons, List.not_mem_nil, or_false] at h
    rcases h with h | h | h | h
    · exact .inr ⟨_, by omega, h⟩
    · exact .inr ⟨_, by omega, h⟩
    · exact .inr ⟨_, by omega, h⟩
    · exact .inl h
  | case3 a =>
    have ha := a.toNat_lt
    simp only [encode, List.mem_cons, List.not_mem_nil, or_false, or_self] at h
    rcases h with h | h | h
    · exact .inr ⟨_, by omega, h⟩
    · exact .inr ⟨_, by omega, h⟩
    · exact .inl h
  | case4 => simp [encode] at h

/-- A text is ASCII. -/
theorem toNat_lt_of_mem_encode {bs : Bytes} {c : Char} (h : c ∈ encode bs) : c.toNat < 128 := by
  obtain rfl | ⟨v, hv, rfl⟩ := mem_encode h
  · decide
  · exact (digit_spec v hv).1

/-- No text starts with a pad. -/
theorem head?_encode (bs : Bytes) : (encode bs).head? ≠ some '=' := by
  have hne (a : UInt8) : digit (a.toNat / 4) ≠ '=' := by
    have ha := a.toNat_lt
    exact (digit_spec _ (by omega)).2.1
  cases bs using encode.fun_cases with
  | case1 a b c rest => simp [encode, hne]
  | case2 a b => simp [encode, hne]
  | case3 a => simp [encode, hne]
  | case4 => simp [encode]

/-- The reader takes in the value of a character. -/
theorem run_digit {r : Reader} {v : Nat} {rest : List Char} (hv : v < 64)
    (hr : r.padded = false) : r.run (digit v :: rest) = (r.take v).run rest := by
  obtain ⟨-, hne, hvalue⟩ := digit_spec v hv
  rw [Reader.run, if_neg hne, hvalue]
  simp [hr]

/-- A byte is made of its upper and its lower part. -/
private theorem ofNat_eq {x : UInt8} {n : Nat} (h : n = x.toNat) : UInt8.ofNat n = x := by
  rw [h]
  exact UInt8.ofNat_toNat

/-- Where a group begins, the rest of a text completes the bytes that it encodes. -/
theorem run_encode (bs done : Bytes) :
    ({ done := done } : Reader).run (encode bs) = .ok (done.reverse ++ bs) := by
  induction bs using encode.induct generalizing done with
  | case1 a b c rest ih =>
    have ha := a.toNat_lt
    have hb := b.toNat_lt
    have hc := c.toNat_lt
    rw [encode, run_digit (by omega) rfl, run_digit (by omega) rfl, run_digit (by omega) rfl,
      run_digit (by omega) rfl]
    have hfirst : UInt8.ofNat (a.toNat / 4 * 4 + (a.toNat % 4 * 16 + b.toNat / 16) / 16) = a :=
      ofNat_eq (by omega)
    have hsecond : UInt8.ofNat ((a.toNat % 4 * 16 + b.toNat / 16) % 16 * 16 +
        (b.toNat % 16 * 4 + c.toNat / 64) / 4) = b := ofNat_eq (by omega)
    have hthird : UInt8.ofNat ((b.toNat % 16 * 4 + c.toNat / 64) % 4 * 64 + c.toNat % 64) = c :=
      ofNat_eq (by omega)
    simp only [Reader.take, hfirst, hsecond, hthird]
    rw [ih]
    simp
  | case2 a b =>
    have ha := a.toNat_lt
    have hb := b.toNat_lt
    rw [encode, run_digit (by omega) rfl, run_digit (by omega) rfl, run_digit (by omega) rfl]
    have hfirst : UInt8.ofNat (a.toNat / 4 * 4 + (a.toNat % 4 * 16 + b.toNat / 16) / 16) = a :=
      ofNat_eq (by omega)
    have hsecond : UInt8.ofNat ((a.toNat % 4 * 16 + b.toNat / 16) % 16 * 16 +
        (b.toNat % 16 * 4) / 4) = b := ofNat_eq (by omega)
    simp only [Reader.take, hfirst, hsecond]
    simp [Reader.run]
  | case3 a =>
    have ha := a.toNat_lt
    rw [encode, run_digit (by omega) rfl, run_digit (by omega) rfl]
    have hfirst : UInt8.ofNat (a.toNat / 4 * 4 + (a.toNat % 4 * 16) / 16) = a :=
      ofNat_eq (by omega)
    simp only [Reader.take, hfirst]
    simp [Reader.run]
  | case4 => simp [encode, Reader.run]

/-- Bytes come back from their text. -/
theorem decode_encode (bs : Bytes) : decode (encode bs) = .ok bs := by
  have hascii : ((encode bs).any fun c ↦ 128 ≤ c.toNat) = false := by
    rw [List.any_eq_false]
    intro c hc
    have hlt := toNat_lt_of_mem_encode hc
    simpa using hlt
  unfold decode
  rw [hascii, if_neg (by simp), if_neg (head?_encode bs)]
  exact run_encode bs []

end Apake.Base64
