import Apake.Blinding
import Apake.Wire.Message

/-!
# Server secrets

A server keeps one seed, from which the keys of all accounts follow, and one static key pair.  For an
identifier without an account it derives a stand-in record that looks like any other.
-/

namespace Apake

/-- The secrets of a server with what is computed from them once. -/
structure ServerSetup where
  suite : Suite
  seed : Secret
  privateKey : Secret
  publicKey : Bytes
  /-- The client key of every stand-in record. -/
  standInKey : Bytes
  deriving DecidableEq

namespace ServerSetup

/-- The information for the stand-in client key. -/
def standInKeyLabel : Bytes := Bytes.ofString "DummyPrivateKey"

/-- The end of the information for a stand-in masking key. -/
def standInMaskingLabel : Bytes := Bytes.ofString "DummyMaskingKey"

/-- The end of the information for a stand-in envelope. -/
def standInEnvelopeLabel : Bytes := Bytes.ofString "DummyEnvelope"

/-- The secrets one after the other, as long as they are live. -/
def toBytes (setup : ServerSetup) : Except Error Bytes := do
  return (← setup.seed.read) ++ (← setup.privateKey.read)

/-- Wipes both secrets. -/
def wipe (setup : ServerSetup) : ServerSetup :=
  { setup with seed := setup.seed.wipe, privateKey := setup.privateKey.wipe }

/-- A short form that shows the public key only. -/
def describe (setup : ServerSetup) : String :=
  s!"ServerSetup(suite={setup.suite.name}, public_key={setup.publicKey.hex})"

variable [Groups]

/-- The setup with a given seed and private key. -/
def make (s : Suite) (seed privateKey : Bytes) : Except Error ServerSetup := do
  if seed.length ≠ s.hashLength then throw (.wrongLength "oprf seed" s.hashLength seed.length)
  let publicKey ← s.exchange.publicKey privateKey
  let standIn ← s.exchange.derivePrivateKey s.hash (s.hash.expand seed standInKeyLabel s.seedLength)
  return ⟨s, .ofBytes seed, .ofBytes privateKey, publicKey, ← s.exchange.publicKey standIn⟩

/-- A setup with fresh secrets. -/
def generate (s : Suite) : Draw ServerSetup := do
  let seed ← Draw.bytes s.hashLength
  let privateKey ← s.exchange.randomPrivateKey
  make s seed privateKey

/-- The size of every setup of a suite in storage. -/
def length (s : Suite) : Nat := s.hashLength + s.privateLength

/-- The setup that stored bytes stand for. -/
def ofBytes (s : Suite) (bs : Bytes) : Except Error ServerSetup := do
  if bs.length ≠ length s then throw (.wrongLength "ServerSetup" (length s) bs.length)
  make s (bs.take s.hashLength) (bs.drop s.hashLength)

/-- The key of an account. -/
def accountKey (setup : ServerSetup) (identifier : Bytes) : Except Error Nat := do
  Blinding.accountKey setup.suite (← setup.seed.read) identifier

/-- The stand-in record of an identifier, which takes no group operation. -/
def standIn (setup : ServerSetup) (identifier : Bytes) : Except Error RegistrationUpload := do
  let s := setup.suite
  let seed ← setup.seed.read
  let masking := s.hash.expand seed (identifier ++ standInMaskingLabel) s.hashLength
  let envelope := s.hash.expand seed (identifier ++ standInEnvelopeLabel) s.envelopeLength
  return ⟨s, setup.standInKey, masking, Envelope.split s envelope⟩

end ServerSetup

end Apake
