import Apake.Framing
import Apake.Suite

/-!
# Envelopes

An envelope holds the client's private key, encrypted under the randomized password, and a tag that
also covers the server's public key and the identities of both sides.  It opens only with the same
password, key and identities.
-/

namespace Apake

/-- Explicit identities; an absent one counts as empty. -/
structure Identifiers where
  client : Option Bytes := none
  server : Option Bytes := none
  deriving DecidableEq

/-- A sealed private key. -/
structure Envelope where
  nonce : Bytes
  encryptedKey : Bytes
  tag : Bytes
  deriving DecidableEq

namespace Envelope

/-- The end of the information for the tag's key. -/
def authLabel : Bytes := Bytes.ofString "AuthKey"

/-- The end of the information for the pad over the private key. -/
def padLabel : Bytes := Bytes.ofString "PrivateKeyPad"

/-- The end of the information for the export key. -/
def exportLabel : Bytes := Bytes.ofString "ExportKey"

/-- The information for the masking key. -/
def maskingLabel : Bytes := Bytes.ofString "MaskingKey"

/-- What the tag covers besides the envelope: the server's key and both identities. -/
def cleartext (serverKey : Bytes) (ids : Identifiers) : Except Error Bytes := do
  return serverKey ++ (← Framing.vector (ids.server.getD [])) ++
    (← Framing.vector (ids.client.getD []))

/-- The key under which the tag is made. -/
def authKey (s : Suite) (randomized nonce : Bytes) : Bytes :=
  s.hash.expand randomized (nonce ++ authLabel) s.hashLength

/-- The masking key of a randomized password. -/
def maskingKey (s : Suite) (randomized : Bytes) : Bytes :=
  s.hash.expand randomized maskingLabel s.hashLength

/-- The export key of a randomized password under an envelope's nonce. -/
def exportKey (s : Suite) (randomized nonce : Bytes) : Bytes :=
  s.hash.expand randomized (nonce ++ exportLabel) s.hashLength

/-- The tag over nonce, encrypted key and cleartext. -/
def makeTag (s : Suite) (randomized nonce encryptedKey clear : Bytes) : Bytes :=
  s.hash.mac (authKey s randomized nonce) (nonce ++ encryptedKey ++ clear)

variable [Groups]

/-- The pad that encrypts the private key. -/
def pad (s : Suite) (randomized nonce : Bytes) : Bytes :=
  s.hash.expand randomized (nonce ++ padLabel) s.privateLength

/-- Seals a private key under a nonce. -/
def enclose (s : Suite) (randomized privateKey serverKey nonce : Bytes) (ids : Identifiers) :
    Except Error Envelope := do
  if nonce.length ≠ s.nonceLength then
    throw (.wrongLength "envelope nonce" s.nonceLength nonce.length)
  let encryptedKey ← Framing.mask privateKey (pad s randomized nonce)
  let clear ← cleartext serverKey ids
  return ⟨nonce, encryptedKey, makeTag s randomized nonce encryptedKey clear⟩

/-- The private key in an envelope whose tag matches. -/
def recover (s : Suite) (randomized : Bytes) (e : Envelope) (serverKey : Bytes)
    (ids : Identifiers) : Except Error Bytes := do
  let clear ← cleartext serverKey ids
  if makeTag s randomized e.nonce e.encryptedKey clear ≠ e.tag then throw .envelopeRejected
  Framing.mask e.encryptedKey (pad s randomized e.nonce)

/-- The fields one after the other, each cut or filled up to its size. -/
def toBytes (s : Suite) (e : Envelope) : Bytes :=
  e.nonce.fit s.nonceLength ++ e.encryptedKey.fit s.privateLength ++ e.tag.fit s.hashLength

/-- Splits bytes of any length at the sizes of the fields. -/
def split (s : Suite) (bs : Bytes) : Envelope where
  nonce := bs.take s.nonceLength
  encryptedKey := (bs.drop s.nonceLength).take s.privateLength
  tag := bs.drop (s.nonceLength + s.privateLength)

/-- The envelope that bytes of the right length stand for. -/
def ofBytes (s : Suite) (bs : Bytes) : Except Error Envelope :=
  if bs.length ≠ s.envelopeLength then
    .error (.wrongLength "Envelope" s.envelopeLength bs.length)
  else .ok (split s bs)

end Envelope

end Apake
