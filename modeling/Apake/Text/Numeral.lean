import Apake.Error
import Apake.Text.Blank

/-!
# Numerals

The digits of all scripts spell whole numbers, with a sign in front, single underscores between
digits and blanks around.
-/

namespace Apake.Text

/-- The code points of the zeros of all scripts of Unicode 14.0; nine more digits follow each. -/
def zeros : List Nat := [
  0x30, 0x660, 0x6f0, 0x7c0, 0x966, 0x9e6, 0xa66, 0xae6, 0xb66, 0xbe6, 0xc66, 0xce6, 0xd66, 0xde6,
  0xe50, 0xed0, 0xf20, 0x1040, 0x1090, 0x17e0, 0x1810, 0x1946, 0x19d0, 0x1a80, 0x1a90, 0x1b50,
  0x1bb0, 0x1c40, 0x1c50, 0xa620, 0xa8d0, 0xa900, 0xa9d0, 0xa9f0, 0xaa50, 0xabf0, 0xff10, 0x104a0,
  0x10d30, 0x11066, 0x110f0, 0x11136, 0x111d0, 0x112f0, 0x11450, 0x114d0, 0x11650, 0x116c0,
  0x11730, 0x118e0, 0x11950, 0x11c50, 0x11d50, 0x11da0, 0x16a60, 0x16ac0, 0x16b50, 0x1d7ce,
  0x1d7d8, 0x1d7e2, 0x1d7ec, 0x1d7f6, 0x1e140, 0x1e2f0, 0x1e950, 0x1fbf0]

/-- The value of a digit of any script. -/
def digit? (c : Char) : Option Nat :=
  (zeros.find? fun first ↦ first ≤ c.toNat && c.toNat < first + 10).map (c.toNat - ·)

/-- Whether a character may stand around a numeral. -/
def isAround (c : Char) : Bool := isBlank c && !(0x1c ≤ c.toNat && c.toNat < 0x20)

/-- The values of digits with single underscores between them. -/
def digits? : List Char → Option (List Nat)
  | [] => none
  | [c] => (digit? c).map ([·])
  | c :: '_' :: rest => do
    let d ← digit? c
    return d :: (← digits? rest)
  | c :: rest => do
    let d ← digit? c
    return d :: (← digits? rest)

/-- The whole number that a text spells, unless it has too many digits. -/
def wholeNumber? (s : String) : Option Int := do
  let cs := s.toList.dropWhile isAround
  let cs := (cs.reverse.dropWhile isAround).reverse
  let (negative, cs) := match cs with
    | '-' :: rest => (true, rest)
    | '+' :: rest => (false, rest)
    | cs => (false, cs)
  let ds ← digits? cs
  if digitLimit < ds.length then none
  else
    let n : Nat := ds.foldl (fun n d ↦ n * 10 + d) 0
    return if negative then -(n : Int) else n

end Apake.Text
