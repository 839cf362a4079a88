import Apake.Group.Basic
import Apake.Group.Modular
import Apake.Hash.Algorithm

/-!
# The Edwards curve over the field of `2 ^ 255 - 19`

Points `(x, y)` with `-x² + y² = 1 + d x² y²`, added by the complete formulas in extended
coordinates.  A point is written as its `y`, least significant byte first, with the lowest bit of
`x` in the top bit.  Decoding takes every 255-bit `y`, recovers `x`, and accepts points whose
multiple by the order is the identity.
-/

namespace Apake.Edwards

/-- The size of the field. -/
def fieldPrime : Nat := (1 <<< 255) - 19

/-- The prime order of the subgroup in use; the curve has eight times as many points. -/
def order : Nat := (1 <<< 252) + 27742317777372353535851937790883648493

/-- The curve constant, `-121665 / 121666`. -/
def d : Nat := 37095705934669439343138083508754565189542113879843219016388785533085940283555

/-- A square root of minus one. -/
def rootOfMinusOne : Nat := Modular.power 2 ((fieldPrime - 1) / 4) fieldPrime

/-- A point with coordinates below the field size. -/
structure Point where
  x : Nat
  y : Nat
  deriving DecidableEq

namespace Point

/-- The neutral element. -/
def zero : Point := ⟨0, 1⟩

/-- The generator of the subgroup: `y = 4 / 5` and the even root for `x`. -/
def base : Point :=
  ⟨15112221349535400772501151409588531511454012693041857206046113283949847762202,
    46316835694926478169428394003475163141307993866256225615783033603165251855960⟩

/-- Whether the coordinates satisfy the curve equation. -/
def onCurve (p : Point) : Bool :=
  (p.y * p.y) % fieldPrime =
    (1 + p.x * p.x + d * (p.x * p.x % fieldPrime) * (p.y * p.y % fieldPrime)) % fieldPrime

end Point

/-- A point in extended coordinates: `x = X / Z`, `y = Y / Z` and `T = X Y / Z`. -/
structure Extended where
  x : Nat
  y : Nat
  z : Nat
  t : Nat

namespace Extended

/-- The neutral element. -/
def zero : Extended := ⟨0, 1, 1, 0⟩

/-- A point with `Z = 1`. -/
def ofPoint (p : Point) : Extended := ⟨p.x, p.y, 1, p.x * p.y % fieldPrime⟩

/-- The point with its coordinates divided by `Z`. -/
def toPoint (p : Extended) : Point :=
  let inverse := Modular.inverse p.z fieldPrime
  ⟨p.x * inverse % fieldPrime, p.y * inverse % fieldPrime⟩

/-- Whether the point is the neutral element. -/
def isZero (p : Extended) : Bool := p.x % fieldPrime = 0 && p.y % fieldPrime = p.z % fieldPrime

/-- The complete addition law for the constant `-1`. -/
def add (p q : Extended) : Extended :=
  let a := (p.y + fieldPrime - p.x) * (q.y + fieldPrime - q.x) % fieldPrime
  let b := (p.y + p.x) * (q.y + q.x) % fieldPrime
  let c := 2 * d * p.t % fieldPrime * q.t % fieldPrime
  let e := 2 * p.z * q.z % fieldPrime
  let f := b + fieldPrime - a
  let g := e + fieldPrime - c
  let h := e + c
  let k := b + a
  ⟨f * g % fieldPrime, h * k % fieldPrime, g * h % fieldPrime, f * k % fieldPrime⟩

/-- `acc + e • p` for every `e < 2 ^ steps`, from the lowest bit of `e` up. -/
def scaleLoop : (steps e : Nat) → (p acc : Extended) → Extended
  | 0, _, _, acc => acc
  | steps + 1, e, p, acc =>
    scaleLoop steps (e / 2) (p.add p) (if e % 2 = 1 then acc.add p else acc)

/-- The multiple of a point by a number. -/
def scale (k : Nat) (p : Extended) : Extended := scaleLoop (k.log2 + 1) k p zero

end Extended

namespace Point

/-- The sum of two points. -/
def add (p q : Point) : Point := ((Extended.ofPoint p).add (Extended.ofPoint q)).toPoint

/-- The multiple of a point by a number. -/
def scale (k : Nat) (p : Point) : Point := ((Extended.ofPoint p).scale k).toPoint

/-- Whether the multiple of a point by a number is the neutral element. -/
def killedBy (k : Nat) (p : Point) : Bool := ((Extended.ofPoint p).scale k).isZero

end Point

/-- The even root of `(y² - 1) / (d y² + 1)` where there is one, and some even number elsewhere. -/
def recoverX (y : Nat) : Nat :=
  let square := y * y % fieldPrime
  let ratio := (square + fieldPrime - 1) *
    Modular.inverse (d * square % fieldPrime + 1) fieldPrime % fieldPrime
  let candidate := Modular.power ratio ((fieldPrime + 3) / 8) fieldPrime
  let root :=
    if candidate * candidate % fieldPrime = ratio then candidate
    else candidate * rootOfMinusOne % fieldPrime
  if root % 2 = 0 then root else fieldPrime - root

/-- A point as 32 bytes. -/
def Point.encode (p : Point) : Bytes := Bytes.ofNatLE 32 (p.y + (p.x % 2) <<< 255)

/-- The point that 32 bytes stand for, if it is in the subgroup of prime order. -/
def Point.decode (bs : Bytes) : Except Defect Point :=
  let n := Bytes.toNatLE bs
  let y := n % (1 <<< 255)
  let root := recoverX y
  let x := if root % 2 = n >>> 255 then root else (fieldPrime - root) % fieldPrime
  let p : Point := ⟨x, y % fieldPrime⟩
  if bs = Point.zero.encode then .error .zeroElement
  else if !p.onCurve then .error .offCurve
  else if !p.killedBy order then .error .outsideSubgroup
  else .ok p

/-- The first point at `y`, `y + 1`, … that lies on the curve and whose multiple by eight is not the
neutral element; the result is that multiple. -/
def search : (steps y : Nat) → Point
  | 0, _ => Point.zero
  | steps + 1, y =>
    let p : Point := ⟨recoverX y, y⟩
    if p.onCurve && !p.killedBy 8 then p.scale 8 else search steps ((y + 1) % fieldPrime)

/-- The information that sets the expansion of a seed apart from other expansions. -/
def seedInfo : Bytes := Bytes.ofString "SPAKE2 arbitrary element"

/-- A seed expanded to `n` bytes. -/
def expandSeed (seed : Bytes) (n : Nat) : Bytes :=
  HashAlgorithm.sha256.expand (HashAlgorithm.sha256.extract [] seed) seedInfo n

/-- A point of the subgroup without known logarithm. -/
def Point.ofSeed (seed : Bytes) : Point :=
  search fieldPrime (Bytes.toNat (expandSeed seed 48) % fieldPrime)

/-- The subgroup of prime order. -/
def group : PrimeGroup where
  Element := Point
  order := order
  identity := Point.zero
  base := Point.base
  add := Point.add
  scale := Point.scale
  elementLength := 32
  encode := Point.encode
  decode := Point.decode
  ofSeed := Point.ofSeed
  sampling := .reduce 64

end Apake.Edwards
