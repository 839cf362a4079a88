import Apake.Credential.Masking
import Apake.Proofs.Random.Supply

/-!
# Sealed and masked credentials come back

What was sealed opens under the same password, server key and identities, and what was masked is
unmasked with the same key and nonce.  A mask has the same size whatever is under it.
-/

namespace Apake

attribute [local instance (2000)] instPowNat

/-- Exclusive or with the same string twice gives back the other one. -/
theorem Bytes.xor_xor {a b : Bytes} (h : a.length = b.length) : (a.xor b).xor b = a := by
  induction a generalizing b with
  | nil => rfl
  | cons x a ih =>
    cases b with
    | nil => cases h
    | cons y b =>
      have htail : Bytes.xor (Bytes.xor a b) b = a := ih (by simpa using h)
      have hhead : x ^^^ y ^^^ y = x := by
        rw [UInt8.xor_assoc, UInt8.xor_self, UInt8.xor_zero]
      simp only [Bytes.xor, List.zipWith_cons_cons] at htail ⊢
      rw [hhead, htail]

/-- Strings of one length can be combined. -/
theorem Framing.mask_eq_ok_iff {a b c : Bytes} :
    Framing.mask a b = .ok c ↔ a.length = b.length ∧ c = a.xor b := by
  unfold Framing.mask
  split
  · next h => simp [h, eq_comm]
  · next h => simp [h]

/-- A mask has the length of what is under it. -/
theorem Framing.length_of_mask {a b c : Bytes} (h : Framing.mask a b = .ok c) :
    c.length = b.length := by
  obtain ⟨hlength, rfl⟩ := Framing.mask_eq_ok_iff.mp h
  rw [Bytes.length_xor]
  omega

/-- Masking twice gives back what was under the mask. -/
theorem Framing.mask_mask {a b c : Bytes} (h : Framing.mask a b = .ok c) :
    Framing.mask c b = .ok a := by
  have hc := Framing.length_of_mask h
  obtain ⟨hlength, rfl⟩ := Framing.mask_eq_ok_iff.mp h
  exact Framing.mask_eq_ok_iff.mpr ⟨hc, (Bytes.xor_xor hlength).symm⟩

variable [Groups] {s : Suite}

namespace Envelope

/-- An envelope whose fields have the sizes of the suite. -/
structure Fits (s : Suite) (e : Envelope) : Prop where
  nonce : e.nonce.length = s.nonceLength
  encryptedKey : e.encryptedKey.length = s.privateLength
  tag : e.tag.length = s.hashLength

/-- An envelope has its size on the wire whatever is in it. -/
theorem length_toBytes (e : Envelope) : (e.toBytes s).length = s.envelopeLength := by
  unfold toBytes Suite.envelopeLength
  simp only [List.length_append, Bytes.length_fit]

/-- An envelope of the right sizes is read back from the wire. -/
theorem ofBytes_toBytes {e : Envelope} (h : e.Fits s) : ofBytes s (e.toBytes s) = .ok e := by
  unfold ofBytes
  rw [if_neg (by simp [length_toBytes])]
  obtain ⟨nonce, encryptedKey, tag⟩ := e
  obtain ⟨hnonce, hkey, htag⟩ := h
  dsimp only at hnonce hkey htag
  unfold split toBytes
  dsimp only
  rw [Bytes.fit_of_length hnonce, Bytes.fit_of_length hkey, Bytes.fit_of_length htag,
    List.append_assoc, List.take_left' hnonce, List.drop_left' hnonce, List.take_left' hkey,
    ← List.append_assoc, List.drop_left' (by rw [List.length_append, hnonce, hkey])]

/-- Bytes of the right length are cut into fields of the right sizes, and written as they were. -/
theorem toBytes_split {bs : Bytes} (h : bs.length = s.envelopeLength) :
    (split s bs).Fits s ∧ (split s bs).toBytes s = bs := by
  unfold Suite.envelopeLength at h
  have hfits : (split s bs).Fits s := by
    constructor <;> simp only [split, List.length_take, List.length_drop] <;> omega
  refine ⟨hfits, ?_⟩
  unfold toBytes
  rw [Bytes.fit_of_length hfits.nonce, Bytes.fit_of_length hfits.encryptedKey,
    Bytes.fit_of_length hfits.tag]
  simp only [split]
  rw [← List.drop_drop, List.append_assoc, List.take_append_drop, List.take_append_drop]

omit [Groups] in
/-- The cleartext can be put together exactly if both identities fit behind their lengths. -/
theorem exists_cleartext_iff {serverKey : Bytes} {ids : Identifiers} :
    (∃ clear, cleartext serverKey ids = .ok clear) ↔
      (ids.server.getD []).length < 256 ^ (2 : Nat) ∧
        (ids.client.getD []).length < 256 ^ (2 : Nat) := by
  constructor
  · rintro ⟨clear, h⟩
    obtain ⟨server, hserver, h⟩ := Except.bind_eq_ok_iff.mp h
    obtain ⟨client, hclient, -⟩ := Except.bind_eq_ok_iff.mp h
    exact ⟨(Framing.vector_eq_ok_iff.mp hserver).1, (Framing.vector_eq_ok_iff.mp hclient).1⟩
  · rintro ⟨hserver, hclient⟩
    have hserver := Framing.vector_eq_ok_iff.mpr ⟨hserver, rfl⟩
    have hclient := Framing.vector_eq_ok_iff.mpr ⟨hclient, rfl⟩
    exact ⟨_, Except.bind_of_ok hserver <| Except.bind_of_ok hclient rfl⟩

/-- What sealing gives. -/
theorem enclose_eq_ok_iff {randomized privateKey serverKey nonce : Bytes} {ids : Identifiers}
    {e : Envelope} :
    enclose s randomized privateKey serverKey nonce ids = .ok e ↔
      nonce.length = s.nonceLength ∧
        ∃ encryptedKey clear, Framing.mask privateKey (pad s randomized nonce) = .ok encryptedKey ∧
          cleartext serverKey ids = .ok clear ∧
          e = ⟨nonce, encryptedKey, makeTag s randomized nonce encryptedKey clear⟩ := by
  unfold enclose
  rw [Except.refuseIf_eq_ok_iff, Except.bind_eq_ok_iff]
  simp only [Except.bind_eq_ok_iff, ne_eq, Decidable.not_not, pure, Except.pure, Except.ok.injEq,
    eq_comm (a := e)]
  constructor
  · rintro ⟨hnonce, encryptedKey, hmask, clear, hclear, he⟩
    exact ⟨hnonce, encryptedKey, clear, hmask, hclear, he⟩
  · rintro ⟨hnonce, encryptedKey, clear, hmask, hclear, he⟩
    exact ⟨hnonce, encryptedKey, hmask, clear, hclear, he⟩

/-- A sealed private key comes out as it went in, and the envelope has the sizes of the suite. -/
theorem recover_of_enclose {randomized privateKey serverKey nonce : Bytes} {ids : Identifiers}
    {e : Envelope} (h : enclose s randomized privateKey serverKey nonce ids = .ok e) :
    e.nonce = nonce ∧ e.Fits s ∧ recover s randomized e serverKey ids = .ok privateKey := by
  obtain ⟨hnonce, encryptedKey, clear, hmask, hclear, rfl⟩ := enclose_eq_ok_iff.mp h
  have hkey : encryptedKey.length = s.privateLength := by
    rw [Framing.length_of_mask hmask]
    exact s.hash.length_expand _ _ _
  refine ⟨rfl, ⟨hnonce, hkey, s.hash.length_mac _ _⟩, ?_⟩
  unfold recover
  exact Except.bind_of_ok hclear <| Except.refuseIf_eq_ok_iff.mpr
    ⟨not_not_intro rfl, Framing.mask_mask hmask⟩

end Envelope

namespace Masking

/-- A server key of the right size can be masked with any envelope, and the mask has its size. -/
theorem exists_mask {serverKey : Bytes} (hserver : serverKey.length = s.publicLength)
    (key nonce : Bytes) (e : Envelope) :
    ∃ masked, mask s key nonce serverKey e = .ok masked ∧ masked.length = s.maskedLength := by
  have hpad : (pad s key nonce).length = s.maskedLength := s.hash.length_expand _ _ _
  have hplain : (serverKey ++ e.toBytes s).length = (pad s key nonce).length := by
    rw [List.length_append, Envelope.length_toBytes, hpad, hserver]
    rfl
  have hmask := Framing.mask_eq_ok_iff.mpr ⟨hplain, rfl⟩
  exact ⟨_, hmask, (Framing.length_of_mask hmask).trans hpad⟩

/-- A mask has its size. -/
theorem length_of_mask {key nonce serverKey masked : Bytes} {e : Envelope}
    (h : mask s key nonce serverKey e = .ok masked) : masked.length = s.maskedLength :=
  (Framing.length_of_mask h).trans (s.hash.length_expand _ _ _)

/-- A masked server key and envelope come out as they went in. -/
theorem unmask_of_mask {key nonce serverKey masked : Bytes} {e : Envelope}
    (hserver : serverKey.length = s.publicLength) (he : e.Fits s)
    (h : mask s key nonce serverKey e = .ok masked) :
    unmask s key nonce masked = .ok (serverKey, e) := by
  have hlength := length_of_mask h
  unfold unmask
  refine Except.refuseIf_eq_ok_iff.mpr ⟨by simp [hlength], ?_⟩
  apply Except.bind_of_ok (Framing.mask_mask h)
  rw [List.drop_left' hserver, List.take_left' hserver]
  exact Except.bind_of_ok (Envelope.ofBytes_toBytes he) rfl

end Masking

end Apake
