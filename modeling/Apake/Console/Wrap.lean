import Apake.Console.Cells
import Apake.Text.Blank

/-!
# Lines of a fixed width

A text is broken into lines between words; a word that is longer than a line is cut.  The blanks
behind a word stay on its line, as far as they fit.
-/

namespace Apake.Wrap

/-- Parts of a line behind some cells, with blanks between them up to the next multiple of eight
cells, at least one. -/
def alignParts (used : Nat) : List (List Char) → List Char
  | [] => []
  | [part] => part
  | part :: parts =>
    let part := part ++ [' ']
    let used := used + Cells.count part
    let room := (8 - used % 8) % 8
    part ++ List.replicate room ' ' ++ alignParts (used + room) parts

/-- A line with blanks in place of each tab. -/
def expandTabs (cs : List Char) : List Char := alignParts 0 (cs.splitOn '\t')

/-- The words of a text of at most `steps` characters, each with the blanks around it; a text of
blanks has none. -/
def words : (steps : Nat) → List Char → List (List Char)
  | 0, _ => []
  | steps + 1, cs =>
    let before := cs.takeWhile Text.isBlank
    let cs := cs.dropWhile Text.isBlank
    let word := cs.takeWhile (!Text.isBlank ·)
    let cs := cs.dropWhile (!Text.isBlank ·)
    if word.isEmpty then []
    else
      (before ++ word ++ cs.takeWhile Text.isBlank) :: words steps (cs.dropWhile Text.isBlank)

/-- Lines in the making: the finished ones, last one first, the one under way and its cells. -/
structure Page where
  done : List (List Char) := []
  line : List Char := []
  used : Nat := 0

/-- Ends the line under way. -/
def Page.newline (p : Page) : Page := { done := p.line :: p.done }

/-- Puts a text behind the line under way. -/
def Page.put (p : Page) (cs : List Char) : Page :=
  { p with line := p.line ++ cs, used := p.used + Cells.count cs }

/-- Puts a word on the line under way or, if it does not fit, on the next one; a word that fits on
no line is cut, starting on a line of its own. -/
def Page.putWord (width : Nat) (p : Page) (word : List Char) : Page :=
  let length := Cells.count (Text.stripEnd word)
  if p.used + length ≤ width then p.put word
  else
    let p := if p.line.isEmpty then p else p.newline
    if width < length then
      match Cells.chop width word with
      | [] => p
      | part :: parts => parts.foldl (fun p part ↦ p.newline.put part) (p.put part)
    else p.put word

/-- The lines of a text without line ends. -/
def ofLine (width : Nat) (cs : List Char) : List (List Char) :=
  let cs := expandTabs cs
  let ws := words cs.length cs
  if ws.isEmpty then [cs]
  else
    let p := ws.foldl (Page.putWord width) {}
    p.newline.done.reverse

/-- The lines of a text. -/
def lines (width : Nat) (cs : List Char) : List (List Char) :=
  ((cs.splitOn '\n').flatMap (ofLine width)).map (Cells.crop width)

end Apake.Wrap
