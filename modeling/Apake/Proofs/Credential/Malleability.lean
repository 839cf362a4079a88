import Apake.Group.Montgomery
import Apake.Proofs.Credential.Recovery

/-!
# A mask hides without binding

The pad of a response depends on the masking key and the masking nonce alone, and it is as long as
what it covers.  So every string of the right length is the mask of exactly one server key and
envelope, and whoever flips bits of a mask flips the bits in the same places under it: only the tag
of the envelope can tell.
-/

namespace Apake

/-- A bit of a string, which counts from the lowest bit of its first byte; beyond the end no bit is
set. -/
def Bytes.bit (bs : Bytes) (i : Nat) : Bool := (bs.getD (i / 8) 0).toBitVec.getLsbD (i % 8)

/-- A bit of two strings combined is that of the one or of the other, but not of both. -/
theorem Bytes.bit_xor {a b : Bytes} (h : a.length = b.length) (i : Nat) :
    (a.xor b).bit i = (a.bit i ^^ b.bit i) := by
  have hbyte : (a.xor b).getD (i / 8) 0 = a.getD (i / 8) 0 ^^^ b.getD (i / 8) 0 := by
    simp only [List.getD_eq_getElem?_getD]
    by_cases hi : i / 8 < a.length
    · have hj : i / 8 < b.length := h ▸ hi
      have hk : i / 8 < (a.xor b).length := by
        rw [length_xor]
        omega
      rw [List.getElem?_eq_getElem hi, List.getElem?_eq_getElem hj, List.getElem?_eq_getElem hk]
      simp only [Option.getD_some, xor, List.getElem_zipWith]
    · have hj : ¬ i / 8 < b.length := h ▸ hi
      have hk : ¬ i / 8 < (a.xor b).length := by
        rw [length_xor]
        omega
      rw [List.getElem?_eq_none (by omega), List.getElem?_eq_none (by omega),
        List.getElem?_eq_none (by omega)]
      rfl
  unfold bit
  rw [hbyte, UInt8.toBitVec_xor, BitVec.getLsbD_xor]

/-- Strings that differ by one pad differ where the padded ones do. -/
theorem Bytes.bit_xor_ne_iff {a b pad : Bytes} (ha : a.length = pad.length)
    (hb : b.length = pad.length) (i : Nat) :
    (a.xor pad).bit i ≠ (b.xor pad).bit i ↔ a.bit i ≠ b.bit i := by
  rw [bit_xor ha, bit_xor hb]
  simp

variable [Groups] {s : Suite}

/-- An envelope of the right sizes is written as its fields one after the other. -/
theorem Envelope.Fits.toBytes_eq {e : Envelope} (h : e.Fits s) :
    e.toBytes s = e.nonce ++ e.encryptedKey ++ e.tag := by
  unfold toBytes
  rw [Bytes.fit_of_length h.nonce, Bytes.fit_of_length h.encryptedKey, Bytes.fit_of_length h.tag]

namespace Masking

variable {key nonce serverKey masked : Bytes} {e : Envelope}

/-- What a mask covers: the server key and the fields of the envelope, one after the other. -/
def plain (serverKey : Bytes) (e : Envelope) : Bytes :=
  serverKey ++ e.nonce ++ e.encryptedKey ++ e.tag

/-- What a mask covers is as long as the pad. -/
theorem length_plain (hserver : serverKey.length = s.publicLength) (fits : e.Fits s) :
    (plain serverKey e).length = (pad s key nonce).length := by
  have hpad : (pad s key nonce).length = s.maskedLength := s.hash.length_expand _ _ _
  rw [hpad]
  simp only [plain, List.length_append, hserver, fits.nonce, fits.encryptedKey, fits.tag,
    Suite.maskedLength, Suite.envelopeLength]
  omega

/-- A server key and an envelope of the right sizes are masked by the pad. -/
theorem mask_eq (hserver : serverKey.length = s.publicLength) (fits : e.Fits s) :
    mask s key nonce serverKey e = .ok ((plain serverKey e).xor (pad s key nonce)) := by
  have hplain : serverKey ++ e.toBytes s = plain serverKey e := by
    rw [fits.toBytes_eq]
    simp only [plain, List.append_assoc]
  unfold mask
  rw [hplain]
  exact Framing.mask_eq_ok_iff.mpr ⟨length_plain hserver fits, rfl⟩

/-- Every string of the right length is a server key and an envelope under the pad. -/
theorem exists_plain (h : masked.length = s.maskedLength) (key nonce : Bytes) :
    ∃ serverKey e, serverKey.length = s.publicLength ∧ e.Fits s ∧
      masked = (plain serverKey e).xor (pad s key nonce) := by
  have hpad : masked.length = (pad s key nonce).length := h.trans (s.hash.length_expand _ _ _).symm
  let under := masked.xor (pad s key nonce)
  have hunder : under.length = s.publicLength + s.envelopeLength := by
    rw [Bytes.length_xor, ← hpad, Nat.min_self]
    exact h
  have hdrop : (under.drop s.publicLength).length = s.envelopeLength := by
    rw [List.length_drop]
    omega
  obtain ⟨fits, hbytes⟩ := Envelope.toBytes_split hdrop
  refine ⟨under.take s.publicLength, .split s (under.drop s.publicLength), ?_, fits, ?_⟩
  · rw [List.length_take]
    omega
  · have hplain : plain (under.take s.publicLength) (.split s (under.drop s.publicLength)) =
        under := by
      unfold plain
      rw [List.append_assoc, List.append_assoc, ← List.append_assoc _ _ (Envelope.tag _),
        ← fits.toBytes_eq, hbytes, List.take_append_drop]
    rw [hplain, Bytes.xor_xor hpad]

/-- What comes off under a mask of the right length is what the pad covers. -/
theorem eq_of_unmask (h : masked.length = s.maskedLength)
    (hunmask : unmask s key nonce masked = .ok (serverKey, e)) :
    serverKey.length = s.publicLength ∧ e.Fits s ∧
      masked = (plain serverKey e).xor (pad s key nonce) := by
  obtain ⟨serverKey', e', hserver, fits, hmasked⟩ := exists_plain h key nonce
  have hmask : mask s key nonce serverKey' e' = .ok masked := hmasked ▸ mask_eq hserver fits
  rw [unmask_of_mask hserver fits hmask] at hunmask
  cases hunmask
  exact ⟨hserver, fits, hmasked⟩

/-- Masking and unmasking are inverse to each other, between the server keys and envelopes of the
right sizes and the strings of the right length; and two such strings differ in the same bits as
what is under them. -/
theorem mask_bijective_and_malleable (s : Suite) (key nonce : Bytes) :
    (∀ serverKey e, serverKey.length = s.publicLength → e.Fits s →
      ∃ masked, mask s key nonce serverKey e = .ok masked ∧
        unmask s key nonce masked = .ok (serverKey, e)) ∧
    (∀ masked, masked.length = s.maskedLength →
      ∃ serverKey e, unmask s key nonce masked = .ok (serverKey, e) ∧
        serverKey.length = s.publicLength ∧ e.Fits s ∧
        mask s key nonce serverKey e = .ok masked) ∧
    ∀ masked masked', masked.length = s.maskedLength → masked'.length = s.maskedLength →
      ∀ serverKey e serverKey' e', unmask s key nonce masked = .ok (serverKey, e) →
        unmask s key nonce masked' = .ok (serverKey', e') →
        ∀ i, (plain serverKey e).bit i ≠ (plain serverKey' e').bit i ↔
          masked.bit i ≠ masked'.bit i := by
  refine ⟨?_, ?_, ?_⟩
  · intro serverKey e hserver fits
    have hmask : mask s key nonce serverKey e = .ok _ := mask_eq hserver fits
    exact ⟨_, hmask, unmask_of_mask hserver fits hmask⟩
  · intro masked h
    obtain ⟨serverKey, e, hserver, fits, hmasked⟩ := exists_plain h key nonce
    have hmask : mask s key nonce serverKey e = .ok masked := hmasked ▸ mask_eq hserver fits
    exact ⟨serverKey, e, unmask_of_mask hserver fits hmask, hserver, fits, hmask⟩
  · intro masked masked' h h' serverKey e serverKey' e' hunmask hunmask' i
    obtain ⟨hserver, fits, rfl⟩ := eq_of_unmask h hunmask
    obtain ⟨hserver', fits', rfl⟩ := eq_of_unmask h' hunmask'
    rw [Bytes.bit_xor_ne_iff (length_plain hserver fits) (length_plain hserver' fits')]

end Masking

attribute [local instance] Groups.standard in
/-- In the default suite a server key and an envelope of zeros come back from under their mask, and
one flipped bit of a mask of zeros is one flipped bit of what is under it. -/
theorem Masking.mask_bijective_and_malleable_default :
    let s := Suite.default
    let zero := Bytes.zeros 32
    let masked := Bytes.zeros 128
    let flipped := Bytes.ofNatLE 128 1
    (∃ m, mask s [] [] zero ⟨zero, zero, zero⟩ = .ok m ∧
      unmask s [] [] m = .ok (zero, ⟨zero, zero, zero⟩)) ∧
    ∃ serverKey e serverKey' e', unmask s [] [] masked = .ok (serverKey, e) ∧
      unmask s [] [] flipped = .ok (serverKey', e') ∧
      (plain serverKey e).bit 0 ≠ (plain serverKey' e').bit 0 ∧
      (plain serverKey e).bit 1 = (plain serverKey' e').bit 1 := by
  intro s zero masked flipped
  have hzero : zero.length = s.publicLength := Bytes.length_zeros 32
  have fits : Envelope.Fits s ⟨zero, zero, zero⟩ := ⟨hzero, hzero, hzero⟩
  have hmasked : masked.length = s.maskedLength := Bytes.length_zeros 128
  have hflipped : flipped.length = s.maskedLength := Bytes.length_ofNatLE 128 1
  obtain ⟨hback, hunmask, hbits⟩ := mask_bijective_and_malleable s [] []
  obtain ⟨serverKey, e, h, -⟩ := hunmask masked hmasked
  obtain ⟨serverKey', e', h', -⟩ := hunmask flipped hflipped
  have hbit := hbits masked flipped hmasked hflipped serverKey e serverKey' e' h h'
  refine ⟨hback zero _ hzero fits, serverKey, e, serverKey', e', h, h', ?_, ?_⟩
  · exact (hbit 0).mpr (by decide)
  · refine Decidable.not_not.mp fun hdiffers ↦ ?_
    exact absurd ((hbit 1).mp hdiffers) (by decide)

end Apake
