import Apake.Error
import Apake.Json.Value

/-!
# Reading JSON

A text is one value with nothing but blanks around it.  A quoted text holds no control characters;
its escapes stand for UTF-16 units.  Of several mistakes the first one in the text is told, and
values may be nested to a certain depth only.
-/

namespace Apake.Json

/-- Why reading stops. -/
inductive Halt
  /-- A mistake behind so many characters. -/
  | fault (kind : Fault) (index : Nat)
  | longNumber (digits : Nat)
  | nestedTooDeep

/-- How far a text has been read: the characters before, and what follows them. -/
structure Cursor where
  index : Nat
  rest : List Char

/-- Whether a character may stand between tokens. -/
def isBlank (c : Char) : Bool := c = ' ' || c = '\t' || c = '\n' || c = '\r'

/-- Skips as many characters as are given. -/
def Cursor.skip (k : Cursor) (n : Nat) : Cursor := ⟨k.index + n, k.rest.drop n⟩

/-- Skips blanks. -/
def Cursor.skipBlanks (k : Cursor) : Cursor := k.skip (k.rest.takeWhile isBlank).length

/-- The value of a hexadecimal digit. -/
def hexValue? (c : Char) : Option Nat :=
  let n := c.toNat
  if 48 ≤ n ∧ n ≤ 57 then some (n - 48)
  else if 97 ≤ n ∧ n ≤ 102 then some (n - 87)
  else if 65 ≤ n ∧ n ≤ 70 then some (n - 55)
  else none

/-- The unit that four hexadecimal digits stand for. -/
def hexUnit? (a b c d : Char) : Option UInt16 := do
  let n := ((← hexValue? a) * 16 + (← hexValue? b)) * 256 + (← hexValue? c) * 16 + (← hexValue? d)
  return UInt16.ofNat n

/-- The unit that a one-letter escape stands for. -/
def escape? : Char → Option UInt16
  | '"' => some 34
  | '\\' => some 92
  | '/' => some 47
  | 'b' => some 8
  | 'f' => some 12
  | 'n' => some 10
  | 'r' => some 13
  | 't' => some 9
  | _ => none

/-- The units up to the closing quote, and what follows it; `start` is the place of the opening
quote, and `done` holds the units before, last one first.  The digits of an escape must not end the
text. -/
def quoted (start : Nat) (done : Units) (index : Nat) :
    List Char → Except Halt (Units × Cursor)
  | '"' :: rest => .ok (done.reverse, ⟨index + 1, rest⟩)
  | '\\' :: 'u' :: a :: b :: c :: d :: e :: rest =>
    match hexUnit? a b c d with
    | some u => quoted start (u :: done) (index + 6) (e :: rest)
    | none => .error (.fault .unit (index + 1))
  | '\\' :: 'u' :: _ => .error (.fault .unit (index + 1))
  | '\\' :: e :: rest =>
    match escape? e with
    | some u => quoted start (u :: done) (index + 2) rest
    | none => .error (.fault .escape index)
  | ['\\'] | [] => .error (.fault .unterminated start)
  | c :: rest =>
    if c.toNat < 32 then .error (.fault .control index)
    else quoted start ((Units.ofChar c).reverse ++ done) (index + 1) rest

/-- Whether a character is one of the ten digits. -/
def isDigit (c : Char) : Bool := 48 ≤ c.toNat && c.toNat ≤ 57

/-- The number that a string of digits spells. -/
def digitsValue (ds : List Char) : Nat := ds.foldl (fun n c ↦ n * 10 + (c.toNat - 48)) 0

/-- The digits of a whole number without leading zeros, and what follows them. -/
def wholePart? : List Char → Option (List Char × List Char)
  | [] => none
  | c :: rest =>
    if c = '0' then some (['0'], rest)
    else if isDigit c then some (c :: rest.takeWhile isDigit, rest.dropWhile isDigit)
    else none

/-- The digits behind a point, at least one, and what follows them; nothing where there is none. -/
def fractionPart : List Char → List Char × List Char
  | '.' :: c :: rest =>
    if isDigit c then (c :: rest.takeWhile isDigit, rest.dropWhile isDigit)
    else ([], '.' :: c :: rest)
  | cs => ([], cs)

/-- An exponent with at least one digit, and what follows; nothing where there is none. -/
def exponentPart (cs : List Char) : Option Int × List Char :=
  match cs with
  | e :: rest =>
    if e = 'e' ∨ e = 'E' then
      let (negative, rest) := match rest with
        | '-' :: tail => (true, tail)
        | '+' :: tail => (false, tail)
        | _ => (false, rest)
      let digits := rest.takeWhile isDigit
      let size : Int := digitsValue digits
      if digits.isEmpty then (none, cs)
      else (some (if negative then -size else size), rest.dropWhile isDigit)
    else (none, cs)
  | [] => (none, [])

/-- The number at the start of a text, and what follows it. -/
def number (k : Cursor) : Except Halt (Json × Cursor) :=
  let (negative, cs) := match k.rest with
    | '-' :: rest => (true, rest)
    | cs => (false, cs)
  match wholePart? cs with
  | none => .error (.fault .noValue k.index)
  | some (whole, rest) =>
    let (fraction, rest) := fractionPart rest
    let (exponent, rest) := exponentPart rest
    let after : Cursor := ⟨k.index + (k.rest.length - rest.length), rest⟩
    if fraction.isEmpty && exponent.isNone then
      if digitLimit < whole.length then .error (.longNumber whole.length)
      else
        let n : Int := digitsValue whole
        .ok (integer (if negative then -n else n), after)
    else
      let places := exponent.getD 0 - fraction.length
      .ok (decimal (Double.ofDecimal negative (digitsValue (whole ++ fraction)) places), after)

/-- The words that stand for values. -/
def literals : List (List Char × Json) := [
  ("null".toList, null), ("true".toList, bool true), ("false".toList, bool false),
  ("NaN".toList, decimal (.nan 0)), ("Infinity".toList, decimal (.infinite false)),
  ("-Infinity".toList, decimal (.infinite true))]

/-- The word at the start of a text, and what follows it. -/
def literal? (k : Cursor) : Option (Json × Cursor) :=
  literals.findSome? fun (word, value) ↦
    if word.isPrefixOf k.rest then some (value, k.skip word.length) else none

/-- The text between quotes whose opening quote comes first, and what follows it. -/
def name (k : Cursor) : Except Halt (Units × Cursor) :=
  match k.rest with
  | '"' :: rest => quoted k.index [] (k.index + 1) rest
  | _ => .error (.fault .noName k.index)

mutual

/-- The value at the start of a text of fewer than `steps / 2` characters, nested at most `room` deep,
and what follows it. -/
def value (room : Nat) : (steps : Nat) → Cursor → Except Halt (Json × Cursor)
  | 0, k => .error (.fault .noValue k.index)
  | steps + 1, k =>
    match k.rest with
    | '"' :: rest => (quoted k.index [] (k.index + 1) rest).map fun (us, k) ↦ (text us, k)
    | '[' :: _ =>
      let k := (k.skip 1).skipBlanks
      if room = 0 then .error .nestedTooDeep
      else if k.rest.head? = some ']' then .ok (array [], k.skip 1)
      else (items (room - 1) [] steps k).map fun (vs, k) ↦ (array vs, k)
    | '\x7b' :: _ =>
      let k := (k.skip 1).skipBlanks
      if room = 0 then .error .nestedTooDeep
      else if k.rest.head? = some '\x7d' then .ok (object [], k.skip 1)
      else (members (room - 1) [] steps k).map fun (ms, k) ↦ (object ms, k)
    | _ =>
      match literal? k with
      | some result => .ok result
      | none => number k

/-- One or more values up to the closing bracket, behind the ones before, last one first, and what
follows it. -/
def items (room : Nat) (done : List Json) : (steps : Nat) → Cursor →
    Except Halt (List Json × Cursor)
  | 0, k => .error (.fault .noValue k.index)
  | steps + 1, k => do
    let (v, k) ← value room steps k
    let k := k.skipBlanks
    match k.rest with
    | ']' :: _ => return ((v :: done).reverse, k.skip 1)
    | ',' :: _ => items room (v :: done) steps (k.skip 1).skipBlanks
    | _ => throw (.fault .noComma k.index)

/-- One or more members up to the closing brace, added to the ones before, and what follows it. -/
def members (room : Nat) (done : List (Units × Json)) : (steps : Nat) → Cursor →
    Except Halt (List (Units × Json) × Cursor)
  | 0, k => .error (.fault .noName k.index)
  | steps + 1, k => do
    let (key, k) ← name k
    let k := k.skipBlanks
    if k.rest.head? ≠ some ':' then throw (.fault .noColon k.index)
    let (v, k) ← value room steps (k.skip 1).skipBlanks
    let k := k.skipBlanks
    match k.rest with
    | '\x7d' :: _ => return (insert key v done, k.skip 1)
    | ',' :: _ => members room (insert key v done) steps (k.skip 1).skipBlanks
    | _ => throw (.fault .noComma k.index)

end

/-- How deep values may be nested. -/
def depthLimit : Nat := 985

/-- The value that a text spells, unless reading stops. -/
def document (cs : List Char) : Except Halt Json := do
  if cs.head? = some '\uFEFF' then throw (.fault .byteOrderMark 0)
  let (v, k) ← value depthLimit (2 * cs.length + 1) (Cursor.mk 0 cs).skipBlanks
  let k := k.skipBlanks
  if k.rest.isEmpty then return v else throw (.fault .extra k.index)

/-- The failure that stops the reading of a text. -/
def Halt.error (cs : List Char) : Halt → Error
  | fault kind index => .malformedJson kind (Place.after (cs.take index))
  | longNumber digits => .longNumber digits
  | nestedTooDeep => .nestedTooDeep

/-- The value that a text spells. -/
def read (cs : List Char) : Except Error Json := (document cs).mapError (Halt.error cs)

end Apake.Json
