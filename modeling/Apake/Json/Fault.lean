/-!
# What is wrong with a JSON text

A text that cannot be read is refused at its first mistake, which is told with its place.
-/

namespace Apake.Json

/-- A mistake in a JSON text. -/
inductive Fault
  | byteOrderMark
  | noValue
  | noName
  | noColon
  | noComma
  | unterminated
  | control
  | escape
  | unit
  | extra
  deriving DecidableEq

/-- The wording of a mistake. -/
def Fault.message : Fault → String
  | byteOrderMark => "Unexpected UTF-8 BOM (decode using utf-8-sig)"
  | noValue => "Expecting value"
  | noName => "Expecting property name enclosed in double quotes"
  | noColon => "Expecting ':' delimiter"
  | noComma => "Expecting ',' delimiter"
  | unterminated => "Unterminated string starting at"
  | control => "Invalid control character at"
  | escape => "Invalid \\escape"
  | unit => "Invalid \\uXXXX escape"
  | extra => "Extra data"

/-- A place in a text: its line and column, counted from one, and the characters before it. -/
structure Place where
  line : Nat
  column : Nat
  index : Nat
  deriving DecidableEq

/-- The place behind some characters of a text. -/
def Place.after (cs : List Char) : Place where
  line := cs.count '\n' + 1
  column := (cs.reverse.takeWhile (· ≠ '\n')).length + 1
  index := cs.length

/-- The wording of a place. -/
def Place.message (p : Place) : String :=
  s!"line {p.line} column {p.column} (char {p.index})"

end Apake.Json
