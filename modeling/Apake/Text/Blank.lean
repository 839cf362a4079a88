/-!
# Blanks

The characters that separate words and are stripped from the ends of what a user types.
-/

namespace Apake.Text

/-- Ranges of the code points of blanks. -/
def blanks : List (Nat × Nat) := [
  (0x9, 0xd), (0x1c, 0x20), (0x85, 0x85), (0xa0, 0xa0), (0x1680, 0x1680), (0x2000, 0x200a),
  (0x2028, 0x2029), (0x202f, 0x202f), (0x205f, 0x205f), (0x3000, 0x3000)]

/-- Whether a character is a blank. -/
def isBlank (c : Char) : Bool := blanks.any fun (first, last) ↦ first ≤ c.toNat && c.toNat ≤ last

/-- A text without the blanks at its end. -/
def stripEnd (cs : List Char) : List Char := (cs.reverse.dropWhile isBlank).reverse

/-- A text without the blanks at its start and end. -/
def strip (s : String) : String := String.ofList (stripEnd (s.toList.dropWhile isBlank))

end Apake.Text
