import Apake.Group.Prime
import Apake.Secret

/-!
# Key exchange

Diffie-Hellman with keys as byte strings: on the Montgomery curve any 32 bytes are a public key,
in a prime-order group a private key is an encoded scalar and a public key an encoded element.
-/

namespace Apake.ExchangeName

/-- The use that sets derived private keys apart. -/
def derivationInfo : Bytes := Bytes.ofString "OPAQUE-DeriveDiffieHellmanKeyPair"

/-- The coordinate of the generator of the Montgomery curve. -/
def basePoint : Bytes := Bytes.ofNatLE 32 9

/-- A 32-byte private key, or the failure to be one. -/
def montgomeryKey (sk : Bytes) : Except Error Bytes :=
  if sk.length ≠ 32 then .error (.wrongLength "private key" 32 sk.length) else .ok sk

/-- A short form of a key exchange. -/
def describe : ExchangeName → String
  | x25519 => "X25519Group(x25519)"
  | prime group => s!"PrimeOrderKeGroup({group.name})"

variable [Groups]

/-- The size of a public key in bytes. -/
def publicLength : ExchangeName → Nat
  | x25519 => 32
  | prime group => (Groups.prime group).elementLength

/-- The size of a private key in bytes. -/
def privateLength : ExchangeName → Nat
  | x25519 => 32
  | prime group => (Groups.prime group).scalarLength

/-- A fresh private key. -/
def randomPrivateKey : ExchangeName → Draw Bytes
  | x25519 => Draw.bytes 32
  | prime group => do (Groups.prime group).encodeScalar (← (Groups.prime group).randomScalar)

/-- The private key that a seed determines. -/
def derivePrivateKey (h : HashAlgorithm) (seed : Bytes) : ExchangeName → Except Error Bytes
  | x25519 => .ok (h.expand (h.extract [] seed) derivationInfo 32)
  | prime group => do
    (Groups.prime group).encodeScalar ((← (Groups.prime group).deriveScalar h seed derivationInfo))

/-- The public key of a private key. -/
def publicKey (sk : Bytes) : ExchangeName → Except Error Bytes
  | x25519 => do return Groups.x25519 (← montgomeryKey sk) basePoint
  | prime group => do
    let g := Groups.prime group
    return g.encode (g.multiplyBase (← g.decodeScalar sk "private key"))

/-- Whether bytes are a public key; `name` is what a failure calls them. -/
def validatePublicKey (pk : Bytes) (name : String := "public key") :
    ExchangeName → Except Error Unit
  | x25519 => if pk.length ≠ 32 then .error (.wrongLength name 32 pk.length) else .ok ()
  | prime group => do
    let _ ← (Groups.prime group).decodeElement pk name

/-- The Diffie-Hellman value of a private key and a peer's public key.  On the Montgomery curve the
peer's key is measured first, and a private key of the wrong size or an all-zero value is put down
to the peer's key. -/
def diffieHellman (sk pk : Bytes) : ExchangeName → Except Error Bytes
  | x25519 => do
    validatePublicKey pk "public key" x25519
    if sk.length ≠ 32 then
      .error (.malformed "peer public key" (.wrongLength "private key" 32 sk.length))
    else
      let shared := Groups.x25519 sk pk
      if shared = Bytes.zeros 32 then .error (.malformed "peer public key" .noSharedKey)
      else .ok shared
  | prime group => do
    let g := Groups.prime group
    let k ← g.decodeScalar sk "private key"
    return g.encode (g.multiply k (← g.decodeElement pk "peer public key"))

end Apake.ExchangeName
