import Apake.Console.Cells

/-!
# Boxes and tables

Text in a frame as wide as the terminal, and tables as wide as their columns need.
-/

namespace Apake.Console

/-- The width of the terminal. -/
def width : Nat := 80

/-- A text repeated. -/
def times (n : Nat) (s : String) : String := String.join (List.replicate n s)

/-- The cells that a text takes. -/
def cells (s : String) : Nat := Cells.count s.toList

/-- A text filled up with blanks at its end. -/
def padEnd (n : Nat) (s : String) : String := s ++ times (n - cells s) " "

/-- A text filled up with blanks at its start. -/
def padStart (n : Nat) (s : String) : String := times (n - cells s) " " ++ s

/-- A text between equal fillings, or one more behind it. -/
def centred (n : Nat) (filling s : String) : String :=
  let room := n - cells s
  times (room / 2) filling ++ s ++ times (room - room / 2) filling

/-- Lines in a frame with a title. -/
def panel (title : String) (lines : List String) : List String :=
  ["╭" ++ centred (width - 2) "─" s!" {title} " ++ "╮"] ++
    lines.map (fun line ↦ "│ " ++ padEnd (width - 4) line ++ " │") ++
    ["╰" ++ times (width - 2) "─" ++ "╯"]

/-- A column of a table: its heading, its cells, and whether they stand at its right side. -/
structure Column where
  heading : String
  entries : List String
  rightAligned : Bool := false

/-- The cells that the longest entry of a column takes. -/
def Column.width (c : Column) : Nat := ((c.heading :: c.entries).map cells).foldl max 0

/-- An entry filled up to the width of its column. -/
def Column.pad (c : Column) (entry : String) : String :=
  if c.rightAligned then padStart c.width entry else padEnd c.width entry

/-- The rows of a table, every entry filled up. -/
def rows (cs : List Column) : List (List String) :=
  (List.range ((cs.map (·.entries.length)).foldl max 0)).map fun i ↦
    cs.map fun c ↦ c.pad (c.entries.getD i "")

/-- A rule across a table. -/
def rule (cs : List Column) (start line crossing stop : String) : String :=
  start ++ String.intercalate crossing (cs.map fun c ↦ times (c.width + 2) line) ++ stop

/-- A row between bars. -/
def barred (bar : String) (row : List String) : String :=
  bar ++ String.join (row.map fun entry ↦ s!" {entry} {bar}")

/-- A title over lines, in the middle of the first of them. -/
def titled (title : String) (lines : List String) : List String :=
  centred (cells (lines.headD "")) " " title :: lines

/-- A table in a frame, with a title and headings. -/
def framedTable (title : String) (cs : List Column) : List String :=
  titled title <|
    [rule cs "┏" "━" "┳" "┓", barred "┃" (cs.map fun c ↦ c.pad c.heading),
      rule cs "┡" "━" "╇" "┩"] ++
    (rows cs).map (barred "│") ++ [rule cs "└" "─" "┴" "┘"]

/-- A table without a frame and headings. -/
def plainTable (title : String) (cs : List Column) : List String :=
  titled title ((rows cs).map (barred ""))

end Apake.Console
