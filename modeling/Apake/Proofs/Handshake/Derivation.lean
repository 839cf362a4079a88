import Apake.Handshake.Keys
import Apake.Proofs.Random.Supply

/-!
# The keys of a login in closed form

No derivation of a suite can be refused: the labels are short, the contexts are digests or empty,
and one digest of key material is never too much.  The keys are therefore plain functions of the
shared values and the transcript.
-/

namespace Apake

/-- The information for a labelled expansion, where length, label and context fit their fields. -/
def labelBytes (label context : Bytes) (length : Nat) : Bytes :=
  Bytes.ofNat 2 length ++ (Bytes.ofNat 1 (labelStart ++ label).length ++ (labelStart ++ label)) ++
    (Bytes.ofNat 1 context.length ++ context)

/-- A labelled expansion succeeds if length, label and context fit their fields. -/
theorem expandLabel_eq {h : HashAlgorithm} {label context : Bytes} {length : Nat}
    (hlabel : (labelStart ++ label).length < 256) (hcontext : context.length < 256)
    (hlength : length ≤ 255 * h.size) (secret : Bytes) :
    expandLabel h secret label context length =
      .ok (h.expand secret (labelBytes label context length) length) := by
  have hsize : h.size ≤ 64 := by cases h <;> decide
  have hnumber : Framing.number length (2 : Nat) = .ok (Bytes.ofNat 2 length) :=
    (Framing.number_ofNat_eq_ok_iff (by decide)).mpr ⟨by omega, rfl⟩
  have hchecked : h.expandChecked secret (labelBytes label context length) length =
      .ok (h.expand secret (labelBytes label context length) length) := by
    unfold HashAlgorithm.expandChecked
    rw [if_neg (by omega), if_neg (by omega), Int.toNat_natCast]
  have hinfo : labelInfo label context length = .ok (labelBytes label context length) :=
    Except.bind_of_ok hnumber <| Except.bind_of_ok (Framing.vector_eq_ok_iff.mpr ⟨hlabel, rfl⟩) <|
      Except.bind_of_ok (Framing.vector_eq_ok_iff.mpr ⟨hcontext, rfl⟩) rfl
  exact Except.bind_of_ok hinfo hchecked

namespace SessionKeys

variable (s : Suite) (shared transcript : Bytes)

/-- The information for one key of a login. -/
def keyInfo (label : String) (context : Bytes) : Bytes :=
  labelBytes (Bytes.ofString label) context s.hashLength

/-- One key of a login. -/
def key (secret : Bytes) (label : String) (context : Bytes) : Bytes :=
  s.hash.expand secret (keyInfo s label context) s.hashLength

/-- The key that the shared values are concentrated into. -/
def sharedKey : Bytes := s.hash.extract [] shared

/-- The secret from which the keys of both confirmations are derived. -/
def handshakeSecret : Bytes :=
  key s (sharedKey s shared) "HandshakeSecret" (s.hash.digest transcript)

/-- The keys that the shared values and a transcript give. -/
def keysOf : SessionKeys where
  serverMac := key s (handshakeSecret s shared transcript) "ServerMAC" []
  clientMac := key s (handshakeSecret s shared transcript) "ClientMAC" []
  session := key s (sharedKey s shared) "SessionKey" (s.hash.digest transcript)

variable {s}

private theorem expandLabel_key (secret : Bytes) {label : String} {context : Bytes}
    (hlabel : (labelStart ++ Bytes.ofString label).length < 256) (hcontext : context.length < 256) :
    expandLabel s.hash secret (Bytes.ofString label) context s.hashLength =
      .ok (key s secret label context) :=
  expandLabel_eq hlabel hcontext (Nat.le_mul_of_pos_left _ (by decide)) secret

/-- The derivation always succeeds. -/
theorem derive_eq : derive s shared transcript = .ok (keysOf s shared transcript) := by
  have hdigest : (s.hash.digest transcript).length < 256 := by
    rw [HashAlgorithm.length_digest]
    cases s.hash <;> decide
  unfold derive
  dsimp only
  exact Except.bind_of_ok (expandLabel_key _ (by decide) hdigest) <|
    Except.bind_of_ok (expandLabel_key _ (by decide) hdigest) <|
    Except.bind_of_ok (expandLabel_key _ (by decide) (by decide)) <|
    Except.bind_of_ok (expandLabel_key _ (by decide) (by decide)) rfl

/-- A server's confirmation has the size of a digest. -/
theorem length_confirmServer (k : SessionKeys) :
    (k.confirmServer s transcript).length = s.hashLength := s.hash.length_mac _ _

end SessionKeys

end Apake
