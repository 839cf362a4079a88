import Apake.Json.Value

/-!
# Writing JSON

Two layouts: one line with a blank behind each separator, or every item on a line of its own,
indented by two blanks for each level.  Everything beyond printable ASCII is escaped by its UTF-16
units.
-/

namespace Apake.Json

/-- A hexadecimal digit in lower case. -/
def hexDigit (n : Nat) : Char := Nat.digitChar (n % 16)

/-- A unit as it stands between quotes. -/
def escape (u : UInt16) : List Char :=
  let n := u.toNat
  if n = 34 then ['\\', '"']
  else if n = 92 then ['\\', '\\']
  else if n = 10 then ['\\', 'n']
  else if n = 13 then ['\\', 'r']
  else if n = 9 then ['\\', 't']
  else if n = 12 then ['\\', 'f']
  else if n = 8 then ['\\', 'b']
  else if 32 ≤ n ∧ n ≤ 126 then [Char.ofNat n]
  else ['\\', 'u', hexDigit (n / 4096), hexDigit (n / 256), hexDigit (n / 16), hexDigit n]

/-- A text between quotes. -/
def quote (us : Units) : List Char := '"' :: us.flatMap escape ++ ['"']

/-- A number with a fraction or an exponent, or one that is not finite. -/
def decimalText : Double → String
  | .nan _ => "NaN"
  | .infinite false => "Infinity"
  | .infinite true => "-Infinity"
  | x => x.text

/-- How values are laid out. -/
inductive Layout
  /-- Everything on one line. -/
  | line
  /-- Every item on a line of its own, at the given level. -/
  | lines (level : Nat)

/-- The layout of the items inside a value. -/
def Layout.inner : Layout → Layout
  | line => line
  | lines level => lines (level + 1)

/-- What stands in front of the first item and behind the last one. -/
def Layout.newline : Layout → List Char
  | line => []
  | lines level => '\n' :: List.replicate (2 * level) ' '

/-- What stands between two items. -/
def Layout.separator : Layout → List Char
  | line => [',', ' ']
  | lines level => ',' :: (lines level).newline

mutual

/-- A value in a layout. -/
def render (l : Layout) : Json → List Char
  | null => "null".toList
  | bool b => (if b then "true" else "false").toList
  | integer n => (toString n).toList
  | decimal x => (decimalText x).toList
  | text us => quote us
  | array [] => ['[', ']']
  | array (v :: vs) =>
    '[' :: l.inner.newline ++ render l.inner v ++ renderItems l.inner vs ++ l.newline ++ [']']
  | object [] => ['{', '}']
  | object ((k, v) :: ms) =>
    '{' :: l.inner.newline ++ quote k ++ [':', ' '] ++ render l.inner v ++
      renderMembers l.inner ms ++ l.newline ++ ['}']

/-- Further items, each behind a separator. -/
def renderItems (l : Layout) : List Json → List Char
  | [] => []
  | v :: vs => l.separator ++ render l v ++ renderItems l vs

/-- Further members, each behind a separator. -/
def renderMembers (l : Layout) : List (Units × Json) → List Char
  | [] => []
  | (k, v) :: ms => l.separator ++ quote k ++ [':', ' '] ++ render l v ++ renderMembers l ms

end

end Apake.Json
