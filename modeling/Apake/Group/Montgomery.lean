import Apake.Group.Edwards
import Apake.Group.Residue

/-!
# The Montgomery curve and the standard groups

Diffie-Hellman on the curve `y² = x³ + 486662 x² + x` over the field of `2 ^ 255 - 19`, on
`x`-coordinates alone.  With it the group operations that the suites use are complete.
-/

namespace Apake.Montgomery

/-- The size of the field. -/
abbrev fieldPrime : Nat := Edwards.fieldPrime

/-- Two points `x₂ / z₂` and `x₃ / z₃` whose difference is known. -/
structure Pair where
  x2 : Nat
  z2 : Nat
  x3 : Nat
  z3 : Nat

/-- The points exchanged. -/
def Pair.swap (p : Pair) : Pair := ⟨p.x3, p.z3, p.x2, p.z2⟩

/-- The first point doubled and both added, where `u` is the coordinate of their difference. -/
def Pair.step (u : Nat) (p : Pair) : Pair :=
  let a := p.x2 + p.z2
  let b := p.x2 + fieldPrime - p.z2
  let aa := a * a % fieldPrime
  let bb := b * b % fieldPrime
  let e := aa + fieldPrime - bb
  let da := (p.x3 + fieldPrime - p.z3) * a % fieldPrime
  let cb := (p.x3 + p.z3) * b % fieldPrime
  let sum := da + cb
  let difference := da + fieldPrime - cb
  ⟨aa * bb % fieldPrime, e * (aa + 121665 * e) % fieldPrime, sum * sum % fieldPrime,
    u * (difference * difference % fieldPrime) % fieldPrime⟩

/-- The ladder over the lowest `bits` bits of `k`, from the highest down. -/
def ladder (u k : Nat) : (bits : Nat) → Pair → Pair
  | 0, p => p
  | bits + 1, p =>
    ladder u k bits (if k.testBit bits then ((p.swap).step u).swap else p.step u)

/-- The scalar that 32 bytes stand for: a multiple of eight with bit 254 as its highest. -/
def clamp (bs : Bytes) : Nat := Bytes.toNatLE bs % (1 <<< 254) / 8 * 8 + (1 <<< 254)

/-- The coordinate of a multiple; the top bit of the given coordinate is ignored, and coordinates
from the field size up stand for their residue. -/
def multiply (scalar coordinate : Bytes) : Bytes :=
  let u := Bytes.toNatLE coordinate % (1 <<< 255) % fieldPrime
  let p := ladder u (clamp scalar) 255 ⟨1, 0, u, 1⟩
  Bytes.ofNatLE 32 (p.x2 * Modular.inverse p.z2 fieldPrime % fieldPrime)

end Apake.Montgomery

namespace Apake

/-- The groups that the registered suites use. -/
@[reducible] def Groups.standard : Groups where
  prime
    | .ed25519 => Edwards.group
    | .i2048 => Residue.group
  x25519 := Montgomery.multiply

end Apake
