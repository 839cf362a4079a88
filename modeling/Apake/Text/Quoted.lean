import Apake.Text.Units
import Apake.Text.Visible

/-!
# Quoted texts

A text between quotes as it is shown in a message: single quotes, unless the text holds one and no
double quote.  Quotes, backslashes and whatever has no visible form are escaped.
-/

namespace Apake.Quoted

/-- The last `width` hexadecimal digits of a number. -/
def hex (width n : Nat) : List Char :=
  (List.range width).reverse.map fun i ↦ Nat.digitChar (n >>> (4 * i) % 16)

/-- A code point as it stands between quotes of a given kind. -/
def escape (quote n : Nat) : List Char :=
  if n = quote ∨ n = 92 then ['\\', Char.ofNat n]
  else if n = 10 then ['\\', 'n']
  else if n = 13 then ['\\', 'r']
  else if n = 9 then ['\\', 't']
  else if Text.isVisible n then [Char.ofNat n]
  else if n < 0x100 then '\\' :: 'x' :: hex 2 n
  else if n < 0x10000 then '\\' :: 'u' :: hex 4 n
  else '\\' :: 'U' :: hex 8 n

/-- A text between quotes. -/
def ofUnits (us : Units) : String :=
  let ns := us.codePoints
  let quote := if ns.contains 39 && !ns.contains 34 then 34 else 39
  String.ofList (Char.ofNat quote :: ns.flatMap (escape quote) ++ [Char.ofNat quote])

end Apake.Quoted
