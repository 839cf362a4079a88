import Apake.Bytes
import Apake.Error

/-!
# Groups as the protocol sees them

The protocol needs a group of prime order with a fixed-length encoding, and a Diffie-Hellman
function on byte strings.  Both are collected in `Groups`, over which every protocol operation is
stated, so that the protocol depends on nothing but these operations.
-/

namespace Apake

/-- How a uniform scalar is made of random bytes. -/
inductive Sampling
  /-- One draw, reduced modulo the order. -/
  | reduce (bytes : Nat)
  /-- Draws repeated until one is below the order. -/
  | reject (bytes : Nat)
  deriving DecidableEq

/-- The operations of a group of prime order. -/
structure PrimeGroup where
  Element : Type
  order : Nat
  identity : Element
  base : Element
  add : Element → Element → Element
  /-- The multiple of an element by a number below the order. -/
  scale : Nat → Element → Element
  elementLength : Nat
  encode : Element → Bytes
  /-- The element that bytes of the right length stand for; the identity may be among them. -/
  decode : Bytes → Except Defect Element
  /-- An element without known logarithm, made of a seed. -/
  ofSeed : Bytes → Element
  sampling : Sampling

/-- The groups of prime order. -/
inductive PrimeGroupName
  | ed25519
  | i2048
  deriving DecidableEq

/-- The groups for the key exchange. -/
inductive ExchangeName
  | x25519
  | prime (group : PrimeGroupName)
  deriving DecidableEq

/-- The name under which suites list a group. -/
def PrimeGroupName.name : PrimeGroupName → String
  | ed25519 => "ed25519"
  | i2048 => "i2048"

/-- The name under which suites list a key exchange. -/
def ExchangeName.name : ExchangeName → String
  | x25519 => "x25519"
  | prime group => group.name

/-- The group operations that the suites are built on. -/
class Groups where
  prime : PrimeGroupName → PrimeGroup
  /-- The product of a 32-byte scalar and a 32-byte coordinate on the Montgomery curve. -/
  x25519 : (scalar coordinate : Bytes) → Bytes

end Apake
