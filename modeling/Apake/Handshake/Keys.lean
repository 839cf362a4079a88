import Apake.Suite

/-!
# Keys of a login

Three Diffie-Hellman values and the hash of the transcript give the session key and one key for each
side's confirmation.  The confirmation of the server covers the transcript, that of the client also
covers the server's.
-/

namespace Apake

/-- The start of every label. -/
def labelStart : Bytes := Bytes.ofString "OPAQUE-"

/-- The information for a labelled expansion: length, label and context, each in its own field. -/
def labelInfo (label context : Bytes) (length : Int) : Except Error Bytes := do
  return (← Framing.number length 2) ++ (← Framing.vector (labelStart ++ label) 1) ++
    (← Framing.vector context 1)

/-- Expands a secret for a label and a context. -/
def expandLabel (h : HashAlgorithm) (secret label context : Bytes) (length : Int) :
    Except Error Bytes := do
  h.expandChecked secret (← labelInfo label context length) length

/-- What one login derives: the confirmation keys of both sides and the session key. -/
structure SessionKeys where
  serverMac : Bytes
  clientMac : Bytes
  session : Bytes
  deriving DecidableEq

namespace SessionKeys

/-- The keys that the shared values and a transcript give. -/
def derive (s : Suite) (shared transcript : Bytes) : Except Error SessionKeys := do
  let key := s.hash.extract [] shared
  let digest := s.hash.digest transcript
  let handshake ← expandLabel s.hash key (Bytes.ofString "HandshakeSecret") digest s.hashLength
  let session ← expandLabel s.hash key (Bytes.ofString "SessionKey") digest s.hashLength
  let server ← expandLabel s.hash handshake (Bytes.ofString "ServerMAC") [] s.hashLength
  let client ← expandLabel s.hash handshake (Bytes.ofString "ClientMAC") [] s.hashLength
  return ⟨server, client, session⟩

/-- The server's confirmation. -/
def confirmServer (s : Suite) (k : SessionKeys) (transcript : Bytes) : Bytes :=
  s.hash.mac k.serverMac (s.hash.digest transcript)

/-- The client's confirmation, which answers the server's. -/
def confirmClient (s : Suite) (k : SessionKeys) (transcript confirmation : Bytes) : Bytes :=
  s.hash.mac k.clientMac (s.hash.digest (transcript ++ confirmation))

/-- Refuses a server's confirmation that does not match. -/
def checkServer (s : Suite) (k : SessionKeys) (transcript received : Bytes) : Except Error Unit :=
  if k.confirmServer s transcript = received then .ok () else .error .serverRejected

/-- Refuses a client's confirmation that does not match. -/
def checkClient (expected received : Bytes) : Except Error Unit :=
  if expected = received then .ok () else .error .clientRejected

variable [Groups]

/-- The client's three shared values: fresh with fresh, fresh with static, static with fresh. -/
def clientShared (s : Suite) (freshKey staticKey serverStatic serverFresh : Bytes) :
    Except Error Bytes := do
  let a ← s.exchange.diffieHellman freshKey serverFresh
  let b ← s.exchange.diffieHellman freshKey serverStatic
  let c ← s.exchange.diffieHellman staticKey serverFresh
  return a ++ b ++ c

/-- The server's three shared values, in the client's order. -/
def serverShared (s : Suite) (freshKey staticKey clientStatic clientFresh : Bytes) :
    Except Error Bytes := do
  let a ← s.exchange.diffieHellman freshKey clientFresh
  let b ← s.exchange.diffieHellman staticKey clientFresh
  let c ← s.exchange.diffieHellman freshKey clientStatic
  return a ++ b ++ c

end SessionKeys

end Apake
