import Apake.Bytes

/-!
# Texts as UTF-16 units

A text that comes from JSON escapes may hold unpaired surrogates, so it is kept as its UTF-16 units.
A character below `2 ^ 16` is one unit, any other is a pair of surrogates.
-/

namespace Apake

/-- A text as UTF-16 units, paired or not. -/
abbrev Units := List UInt16

namespace Units

/-- The units of a code point. -/
def ofCodePoint (n : Nat) : Units :=
  if n < 0x10000 then [UInt16.ofNat n]
  else [UInt16.ofNat (0xD800 + (n - 0x10000) / 0x400), UInt16.ofNat (0xDC00 + n % 0x400)]

/-- The units of a character. -/
def ofChar (c : Char) : Units := ofCodePoint c.toNat

/-- The units of a text. -/
def ofString (s : String) : Units := s.toList.flatMap ofChar

/-- Whether a unit is the first of a pair. -/
def isHigh (u : UInt16) : Bool := 0xD800 ≤ u && u < 0xDC00

/-- Whether a unit is the second of a pair. -/
def isLow (u : UInt16) : Bool := 0xDC00 ≤ u && u < 0xE000

/-- The code points that the units stand for; an unpaired surrogate stands for itself. -/
def codePoints : Units → List Nat
  | [] => []
  | u :: v :: rest =>
    if isHigh u && isLow v then
      (0x10000 + (u.toNat - 0xD800) * 0x400 + (v.toNat - 0xDC00)) :: codePoints rest
    else u.toNat :: codePoints (v :: rest)
  | [u] => [u.toNat]

/-- Whether a code point is a surrogate. -/
def isSurrogate (n : Nat) : Bool := 0xD800 ≤ n && n < 0xE000

/-- The text that the units stand for, if all surrogates are paired. -/
def toString? (us : Units) : Option String :=
  if us.codePoints.any isSurrogate then none else some (String.ofList (us.codePoints.map Char.ofNat))

/-- The text that the units stand for, with the replacement character for unpaired surrogates. -/
def toText (us : Units) : String :=
  String.ofList (us.codePoints.map fun n ↦ Char.ofNat (if isSurrogate n then 0xFFFD else n))

/-- The UTF-8 form, if all surrogates are paired. -/
def toBytes? (us : Units) : Option Bytes := us.toString?.map Bytes.ofString

end Units

end Apake
