import Apake.Credential.Envelope

/-!
# Masked credentials

The server sends its public key and the client's envelope under a one-time pad, so that nobody
without the masking key can tell one record from another.
-/

namespace Apake.Masking

/-- The end of the information for the pad. -/
def padLabel : Bytes := Bytes.ofString "CredentialResponsePad"

variable [Groups]

/-- The pad for one response. -/
def pad (s : Suite) (key nonce : Bytes) : Bytes :=
  s.hash.expand key (nonce ++ padLabel) s.maskedLength

/-- Masks a server key and an envelope. -/
def mask (s : Suite) (key nonce serverKey : Bytes) (e : Envelope) : Except Error Bytes :=
  Framing.mask (serverKey ++ e.toBytes s) (pad s key nonce)

/-- Takes the mask away; with another key both results are noise. -/
def unmask (s : Suite) (key nonce masked : Bytes) : Except Error (Bytes × Envelope) := do
  if masked.length ≠ s.maskedLength then
    throw (.wrongLength "masked response" s.maskedLength masked.length)
  let plain ← Framing.mask masked (pad s key nonce)
  return (plain.take s.publicLength, ← Envelope.ofBytes s (plain.drop s.publicLength))

end Apake.Masking
