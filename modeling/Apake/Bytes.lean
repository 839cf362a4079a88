/-!
# Byte strings

Byte strings are lists of bytes.  Natural numbers are read from and written to a fixed number of
bytes, most or least significant byte first, and texts are written as UTF-8.  The main statements
say that writing keeps the width, that reading inverts writing below `256 ^ width`, and that
writing inverts reading.
-/

namespace Apake

/-- A byte string is the list of its bytes. -/
abbrev Bytes := List UInt8

namespace Bytes

-- Powers are the built-in ones wherever this module is read.
attribute [local instance (2000)] instPowNat

/-- The number that a byte string spells, least significant byte first. -/
def toNatLE : Bytes → Nat
  | [] => 0
  | b :: bs => b.toNat + 256 * toNatLE bs

/-- The last `width` base-256 places of a number, least significant byte first. -/
def ofNatLE : (width value : Nat) → Bytes
  | 0, _ => []
  | width + 1, value => UInt8.ofNat value :: ofNatLE width (value / 256)

/-- The number that a byte string spells, most significant byte first. -/
def toNat (bs : Bytes) : Nat := toNatLE bs.reverse

/-- The last `width` base-256 places of a number, most significant byte first. -/
def ofNat (width value : Nat) : Bytes := (ofNatLE width value).reverse

/-- The UTF-8 form of a text. -/
def ofString (s : String) : Bytes := s.toList.flatMap String.utf8EncodeChar

/-- A byte string of zeros. -/
def zeros (n : Nat) : Bytes := List.replicate n 0

/-- Exclusive or, byte by byte, as far as both strings reach. -/
def xor (a b : Bytes) : Bytes := List.zipWith (· ^^^ ·) a b

/-- Exactly `n` bytes: a longer string is cut, a shorter one is filled up with zeros. -/
def fit (n : Nat) (bs : Bytes) : Bytes := bs.take n ++ zeros (n - bs.length)

/-- Two lower-case hexadecimal digits for each byte. -/
def hex (bs : Bytes) : String :=
  String.ofList (bs.flatMap fun b ↦ [Nat.digitChar (b.toNat / 16), Nat.digitChar (b.toNat % 16)])

theorem length_ofNatLE (width value : Nat) : (ofNatLE width value).length = width := by
  induction width generalizing value with
  | zero => rfl
  | succ width ih => simp [ofNatLE, ih]

theorem length_ofNat (width value : Nat) : (ofNat width value).length = width := by
  simp [ofNat, length_ofNatLE]

theorem length_zeros (n : Nat) : (zeros n).length = n := List.length_replicate

theorem length_xor (a b : Bytes) : (xor a b).length = min a.length b.length :=
  List.length_zipWith

theorem length_fit (n : Nat) (bs : Bytes) : (fit n bs).length = n := by
  simp only [fit, List.length_append, List.length_take, length_zeros]
  omega

theorem fit_of_length {n : Nat} {bs : Bytes} (h : bs.length = n) : fit n bs = bs := by
  subst h
  simp [fit, zeros]

theorem toNatLE_lt (bs : Bytes) : toNatLE bs < 256 ^ bs.length := by
  induction bs with
  | nil => simp [toNatLE]
  | cons b bs ih =>
    have hb := b.toNat_lt
    rw [toNatLE, List.length_cons, Nat.pow_succ]
    omega

theorem toNatLE_ofNatLE (width value : Nat) :
    toNatLE (ofNatLE width value) = value % 256 ^ width := by
  induction width generalizing value with
  | zero => simp [ofNatLE, toNatLE, Nat.mod_one]
  | succ width ih =>
    have hbyte : (UInt8.ofNat value).toNat = value % 256 := UInt8.toNat_ofNat'
    rw [ofNatLE, toNatLE, ih, hbyte, Nat.pow_succ, Nat.mul_comm (256 ^ width), Nat.mod_mul]

theorem ofNatLE_toNatLE (bs : Bytes) : ofNatLE bs.length (toNatLE bs) = bs := by
  induction bs with
  | nil => rfl
  | cons b bs ih =>
    have hb := b.toNat_lt
    have hhead : UInt8.ofNat (b.toNat + 256 * toNatLE bs) = b := by
      apply UInt8.toNat_inj.mp
      rw [UInt8.toNat_ofNat']
      omega
    have htail : (b.toNat + 256 * toNatLE bs) / 256 = toNatLE bs := by omega
    rw [List.length_cons, toNatLE, ofNatLE, hhead, htail, ih]

theorem toNat_lt (bs : Bytes) : toNat bs < 256 ^ bs.length := by
  simpa [toNat] using toNatLE_lt bs.reverse

theorem toNat_ofNat {width value : Nat} (h : value < 256 ^ width) :
    toNat (ofNat width value) = value := by
  simp [toNat, ofNat, toNatLE_ofNatLE, Nat.mod_eq_of_lt h]

theorem ofNat_toNat (bs : Bytes) : ofNat bs.length (toNat bs) = bs := by
  have h := ofNatLE_toNatLE bs.reverse
  rw [List.length_reverse] at h
  rw [ofNat, toNat, h, List.reverse_reverse]

end Bytes

end Apake
