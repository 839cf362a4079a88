import Apake.Bytes

/-!
# Base64

Three bytes are written as four characters of the standard alphabet, and one or two last bytes are
filled up with pads.  Reading is strict: no other character, no pad before the text or between data,
nothing behind the pads that complete a group, and no incomplete group; bits left over in the last
character do not matter.
-/

namespace Apake.Base64

/-- The character of a six-bit value. -/
def digit (v : Nat) : Char :=
  if v < 26 then Char.ofNat (65 + v)
  else if v < 52 then Char.ofNat (71 + v)
  else if v < 62 then Char.ofNat (v - 4)
  else if v = 62 then '+'
  else '/'

/-- The six-bit value of a character. -/
def value? (c : Char) : Option Nat :=
  let n := c.toNat
  if 65 ≤ n ∧ n ≤ 90 then some (n - 65)
  else if 97 ≤ n ∧ n ≤ 122 then some (n - 71)
  else if 48 ≤ n ∧ n ≤ 57 then some (n + 4)
  else if c = '+' then some 62
  else if c = '/' then some 63
  else none

/-- Bytes as characters. -/
def encode : Bytes → List Char
  | a :: b :: c :: rest =>
    digit (a.toNat / 4) :: digit (a.toNat % 4 * 16 + b.toNat / 16) ::
      digit (b.toNat % 16 * 4 + c.toNat / 64) :: digit (c.toNat % 64) :: encode rest
  | [a, b] =>
    [digit (a.toNat / 4), digit (a.toNat % 4 * 16 + b.toNat / 16), digit (b.toNat % 16 * 4), '=']
  | [a] => [digit (a.toNat / 4), digit (a.toNat % 4 * 16), '=', '=']
  | [] => []

/-- How far a text has been read: the place in a group of four, the bits not yet used, the pads that
count, whether there was any pad, and the bytes so far, last one first. -/
structure Reader where
  place : Nat := 0
  left : Nat := 0
  pads : Nat := 0
  padded : Bool := false
  done : Bytes := []

/-- Takes in the value of one data character. -/
def Reader.take (r : Reader) (v : Nat) : Reader :=
  match r.place with
  | 0 => { r with place := 1, left := v, pads := 0 }
  | 1 =>
    { place := 2, left := v % 16, padded := r.padded,
      done := UInt8.ofNat (r.left * 4 + v / 16) :: r.done }
  | 2 =>
    { place := 3, left := v % 4, padded := r.padded,
      done := UInt8.ofNat (r.left * 16 + v / 4) :: r.done }
  | _ => { padded := r.padded, done := UInt8.ofNat (r.left * 64 + v) :: r.done }

/-- Why a text is not base64. -/
inductive Defect
  | notAscii
  | leadingPad
  | excess
  | foreignCharacter
  | padInside
  | oneMore (characters : Nat)
  | incomplete
  deriving DecidableEq

/-- The wording of a defect. -/
def Defect.message : Defect → String
  | notAscii => "string argument should contain only ASCII characters"
  | leadingPad => "Leading padding not allowed"
  | excess => "Excess data after padding"
  | foreignCharacter => "Only base64 data is allowed"
  | padInside => "Discontinuous padding not allowed"
  | oneMore characters =>
    s!"Invalid base64-encoded string: number of data characters ({characters}) cannot be 1 more " ++
      "than a multiple of 4"
  | incomplete => "Incorrect padding"

/-- The bytes that the rest of a text completes. -/
def Reader.run : Reader → List Char → Except Defect Bytes
  | r, [] =>
    if r.place = 0 then .ok r.done.reverse
    else if r.place = 1 then .error (.oneMore (r.done.length / 3 * 4 + 1))
    else .error .incomplete
  | r, c :: rest =>
    if c = '=' then
      let pads := if 2 ≤ r.place then r.pads + 1 else r.pads
      if 2 ≤ r.place ∧ 4 ≤ r.place + pads then
        if rest.isEmpty then .ok r.done.reverse else .error .excess
      else run { r with pads := pads, padded := true } rest
    else
      match value? c with
      | some v => if r.padded then .error .padInside else run (r.take v) rest
      | none => .error .foreignCharacter

/-- The bytes that characters stand for. -/
def decode (text : List Char) : Except Defect Bytes :=
  if text.any fun c ↦ 128 ≤ c.toNat then .error .notAscii
  else if text.head? = some '=' then .error .leadingPad
  else ({} : Reader).run text

end Apake.Base64
