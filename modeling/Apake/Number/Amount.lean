import Apake.Number.Double

/-!
# Amounts

Whole numbers and double-precision numbers are compared by their exact values.
-/

namespace Apake

/-- The value of a number, exactly; what is not a number is of equal value as itself only. -/
inductive Amount
  | nan (object : Nat)
  | infinite (negative : Bool)
  | fraction (top : Int) (bottom : Nat)

namespace Amount

/-- The value of a whole number. -/
def ofInt (n : Int) : Amount := fraction n 1

/-- The value of a double-precision number. -/
def ofDouble (x : Double) : Amount :=
  match x with
  | .nan object => nan object
  | .infinite negative => infinite negative
  | .finite negative mantissa exponent =>
    let (top, bottom) := Double.ratio negative mantissa exponent
    fraction top bottom

/-- Whether two numbers have the same value. -/
def same : Amount → Amount → Bool
  | nan x, nan y => x = y
  | infinite s, infinite t => s = t
  | fraction a b, fraction c d => a * d = c * b
  | _, _ => false

/-- Whether one number is less than another. -/
def less : Amount → Amount → Bool
  | nan _, _ | _, nan _ => false
  | infinite s, infinite t => s && !t
  | infinite s, fraction .. => s
  | fraction .., infinite t => !t
  | fraction a b, fraction c d => a * d < c * b

end Amount

end Apake
