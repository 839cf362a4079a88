/-!
# Double-precision numbers

A finite number is a mantissa below `2 ^ 53` times a power of two.  Decimals are rounded to the
nearest number, a tie to the even mantissa, and a number is written with the fewest digits that
read back as the same number; of two such decimals the nearer one is taken, or the one with an even
last digit.  All steps are exact arithmetic on whole numbers.
-/

namespace Apake

-- Powers are the built-in ones wherever this module is read.
attribute [local instance (2000)] instPowNat

/-- A double-precision number.  The mantissa of a finite one is at least `2 ^ 52`, or the exponent
is the least one, which is `-1074`. -/
inductive Double
  /-- What is no number.  It is equal to itself only, and several of them may be about, so each one
  tells which it is; all that are read from a text are the same one. -/
  | nan (object : Nat)
  | infinite (negative : Bool)
  | finite (negative : Bool) (mantissa : Nat) (exponent : Int)
  deriving DecidableEq

namespace Double

/-- The number of bits of a mantissa. -/
def precision : Nat := 53

/-- The least exponent. -/
def leastExponent : Int := -1074

/-- The largest exponent. -/
def largestExponent : Int := 971

/-- A fraction divided by a power of two. -/
def scaled (top bottom : Nat) (exponent : Int) : Nat × Nat :=
  (top <<< (-exponent).toNat, bottom <<< exponent.toNat)

/-- The number nearest to a fraction. -/
def ofRatio (negative : Bool) (top bottom : Nat) : Double :=
  if top = 0 then finite negative 0 leastExponent
  else
    let guess := max leastExponent (top.log2 - bottom.log2 - precision : Int)
    let (a, b) := scaled top bottom guess
    let exponent := if a / b < 1 <<< precision then guess else guess + 1
    let (a, b) := scaled top bottom exponent
    let below := a / b
    let rest := 2 * (a % b)
    let mantissa := if b < rest ∨ (rest = b ∧ below % 2 = 1) then below + 1 else below
    let (mantissa, exponent) :=
      if mantissa = 1 <<< precision then (mantissa / 2, exponent + 1) else (mantissa, exponent)
    if largestExponent < exponent then infinite negative else finite negative mantissa exponent

/-- The number nearest to `digits * 10 ^ exponent`; what is far out of range is not computed. -/
def ofDecimal (negative : Bool) (digits : Nat) (exponent : Int) : Double :=
  let size : Int := digits.log2 * 30103 / 100000 + exponent
  if digits = 0 ∨ size < -350 then finite negative 0 leastExponent
  else if 350 < size then infinite negative
  else if exponent < 0 then ofRatio negative digits (10 ^ (-exponent).toNat)
  else ofRatio negative (digits * 10 ^ exponent.toNat) 1

/-- A finite number as a fraction. -/
def ratio (negative : Bool) (mantissa : Nat) (exponent : Int) : Int × Nat :=
  let (bottom, top) := scaled 1 mantissa exponent
  (if negative then -(top : Int) else top, bottom)

/-- A fraction divided by a power of ten. -/
def scaledDown (top bottom : Nat) (exponent : Int) : Nat × Nat :=
  if exponent < 0 then (top * 10 ^ (-exponent).toNat, bottom)
  else (top, bottom * 10 ^ exponent.toNat)

/-- The exponent of the first digit of a positive fraction. -/
def leadingExponent (top bottom : Nat) : Int :=
  let guess := ((top.log2 : Int) - bottom.log2) * 30103 / 100000
  let reaches (exponent : Int) : Bool :=
    let (a, b) := scaledDown top bottom exponent
    b ≤ a
  if reaches (guess + 1) then guess + 1 else if reaches guess then guess else guess - 1

/-- The decimal with `count` digits that reads back as a positive number, if there is one: its
digits and its exponent. -/
def decimalOf? (x : Double) (top bottom count : Nat) : Option (Nat × Int) :=
  let exponent := leadingExponent top bottom - (count - 1 : Nat)
  let (a, b) := scaledDown top bottom exponent
  let below := a / b
  let rest := 2 * (a % b)
  let upward := b < rest ∨ (rest = b ∧ below % 2 = 1)
  let nearer := if upward then [below + 1, below] else [below, below + 1]
  (nearer.find? fun digits ↦ ofDecimal false digits exponent = x).map (·, exponent)

/-- The digits of a positive number without zeros at their end, and the place of the point in
relation to the first digit. -/
def shortest (x : Double) (top bottom : Nat) : List Char × Int :=
  match (List.range' 1 17).findSome? (decimalOf? x top bottom) with
  | some (digits, exponent) =>
    let written := Nat.toDigits 10 digits
    (((written.reverse.dropWhile (· = '0')).reverse), written.length + exponent)
  | none => ([], 0)

/-- Digits with a point at a place; far places are told by an exponent of at least two digits. -/
def layout (digits : List Char) (place : Int) : List Char :=
  let size : Int := digits.length
  if place ≤ -4 ∨ 16 < place then
    let exponent := place - 1
    let tail := if size ≤ 1 then [] else '.' :: digits.drop 1
    let sign := if exponent < 0 then '-' else '+'
    let written := Nat.toDigits 10 exponent.natAbs
    digits.take 1 ++ tail ++ 'e' :: sign :: List.replicate (2 - written.length) '0' ++ written
  else if place ≤ 0 then '0' :: '.' :: List.replicate (-place).toNat '0' ++ digits
  else if size ≤ place then digits ++ List.replicate (place - size).toNat '0' ++ ['.', '0']
  else digits.take place.toNat ++ '.' :: digits.drop place.toNat

/-- A sign in front of a text. -/
def signed (negative : Bool) (cs : List Char) : List Char := if negative then '-' :: cs else cs

/-- A number as text. -/
def text : Double → String
  | nan _ => "nan"
  | infinite negative => String.ofList (signed negative "inf".toList)
  | finite negative mantissa exponent =>
    if mantissa = 0 then String.ofList (signed negative "0.0".toList)
    else
      let (bottom, top) := scaled 1 mantissa exponent
      let (digits, place) := shortest (finite false mantissa exponent) top bottom
      String.ofList (signed negative (layout digits place))

end Double

end Apake
