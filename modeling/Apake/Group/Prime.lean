import Apake.Framing
import Apake.Group.Basic
import Apake.Group.Modular
import Apake.Hash.Algorithm
import Apake.Random

/-!
# Scalars and elements of a prime-order group

Scalars are numbers from one up to the order, written big-endian in as few bytes as the order
needs.  Elements and scalars that arrive as bytes are checked for length, membership and the
identity; hashing, drawing and deriving repeat until their result is usable, up to a fixed number of
attempts.  Where numbers from the order on are rejected, a sample takes as many draws as it needs,
which may be more than any number.
-/

namespace Apake.PrimeGroup

variable (g : PrimeGroup)

/-- The size of an encoded scalar in bytes. -/
def scalarLength : Nat := (g.order.log2 + 8) / 8

/-- Whether an element has the encoding of the identity. -/
def isIdentity (e : g.Element) : Bool := g.encode e = g.encode g.identity

/-- The multiple of an element by any number, which counts modulo the order. -/
def multiply (k : Int) (e : g.Element) : g.Element := g.scale (k % g.order).toNat e

/-- The multiple of the generator by any number. -/
def multiplyBase (k : Int) : g.Element := g.multiply k g.base

/-- The seed for one attempt to hash into the group. -/
def hashSeed (data tag : Bytes) (counter : Nat) : Except Error Bytes := do
  return (← Framing.vector tag) ++ Bytes.ofNat 1 counter ++ data

/-- The first element other than the identity among `attempts` seeds from `counter` on. -/
def hashFrom (data tag : Bytes) : (attempts counter : Nat) → Except Error g.Element
  | 0, _ => .error .hashedToIdentity
  | attempts + 1, counter => do
    let e := g.ofSeed (← hashSeed data tag counter)
    if g.isIdentity e then hashFrom data tag attempts (counter + 1) else .ok e

/-- Maps data to an element without known logarithm; the tag sets apart different uses. -/
def hash (data tag : Bytes) : Except Error g.Element := g.hashFrom data tag 256 0

/-- A uniform number below the order. -/
def sample : Draw Nat :=
  match g.sampling with
  | .reduce bytes => do return (← Draw.number bytes) % g.order
  | .reject bytes => (Draw.number bytes).first (· < g.order)

/-- The first number other than zero among `attempts` samples. -/
def randomFrom : (attempts : Nat) → Draw Nat
  | 0 => throw .noUsableScalar
  | attempts + 1 => do
    let k ← g.sample
    if k = 0 then randomFrom attempts else return k

/-- A uniform scalar. -/
def randomScalar : Draw Nat := g.randomFrom 64

/-- The first number other than zero among `attempts` expansions from `counter` on, each sixteen
bytes wider than a scalar and reduced modulo the order. -/
def deriveFrom (h : HashAlgorithm) (key info : Bytes) : (attempts counter : Nat) → Except Error Nat
  | 0, _ => .error .noDerivedScalar
  | attempts + 1, counter =>
    let wide := h.expand key (info ++ Bytes.ofNat 1 counter) (g.scalarLength + 16)
    let k := Bytes.toNat wide % g.order
    if k = 0 then deriveFrom h key info attempts (counter + 1) else .ok k

/-- The scalar that a seed determines for a use. -/
def deriveScalar (h : HashAlgorithm) (seed info : Bytes) : Except Error Nat :=
  g.deriveFrom h (h.extract [] seed) info 256 0

/-- The inverse of a number modulo the order. -/
def invert (k : Int) : Except Error Nat :=
  let r := (k % g.order).toNat
  if r = 0 then .error .notInvertible else .ok (Modular.inverse r g.order)

/-- The element that bytes stand for; `name` is what a failure calls them. -/
def decodeElement (bs : Bytes) (name : String := "element") : Except Error g.Element :=
  if bs.length ≠ g.elementLength then .error (.wrongLength name g.elementLength bs.length)
  else
    match g.decode bs with
    | .error defect => .error (.malformed name defect)
    | .ok e => if g.isIdentity e then .error (.malformed name .identityElement) else .ok e

/-- A scalar as bytes. -/
def encodeScalar (k : Int) : Except Error Bytes := Framing.number k g.scalarLength

/-- The scalar that bytes stand for; `name` is what a failure calls them. -/
def decodeScalar (bs : Bytes) (name : String := "scalar") : Except Error Nat :=
  if bs.length ≠ g.scalarLength then .error (.wrongLength name g.scalarLength bs.length)
  else
    let k := Bytes.toNat bs
    if k = 0 ∨ g.order ≤ k then .error (.malformed name .outOfRange) else .ok k

end Apake.PrimeGroup

namespace Apake

/-- A short form of a group. -/
def PrimeGroupName.describe (n : PrimeGroupName) : String := s!"PrimeOrderGroup({n.name})"

end Apake
