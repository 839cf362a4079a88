import Apake.Error
import Apake.Json.Reader
import Apake.Text.Lines

/-!
# Literals

The parameters of an event are a literal: a number, a text or a byte string, one of a few names, or
a tuple, a set or a mapping of literals.  Only what is immutable may stand in a set or name a value
of a mapping.  A sum is a literal only where it makes a complex number of a real and an imaginary
one.  Reading tells whether a text is a literal and what may be done with it, not its value.
-/

namespace Apake.Literal

/-- What is known about an expression. -/
inductive Form
  /-- A real number; `huge` if it is a whole number beyond the range of other numbers. -/
  | real (huge : Bool)
  | imaginary
  /-- A real number behind a sign. -/
  | signed (huge : Bool)
  | text
  | bytes
  /-- Something else that is immutable. -/
  | immutable
  | mutable
  /-- The name of the empty set without its brackets. -/
  | setName
  deriving DecidableEq

/-- Whether an expression is a literal. -/
def Form.isLiteral (f : Form) : Bool := f ≠ .setName

/-- Whether an expression is a literal that may stand in a set. -/
def Form.isImmutable (f : Form) : Bool := f.isLiteral && f ≠ .mutable

/-- A form and the text behind it. -/
abbrev Reading := Option (Form × List Char)

/-- Whether a character may stand in a name. -/
def isNameChar (c : Char) : Bool := c.isAlphanum || c = '_' || 128 ≤ c.toNat

/-- Skips blanks and comments, and line ends if the expression is inside brackets. -/
def skipBlanks (inside : Bool) : (steps : Nat) → List Char → Option (List Char)
  | 0, cs => some cs
  | steps + 1, cs =>
    match cs with
    | '\\' :: '\n' :: rest => if rest.isEmpty then none else skipBlanks inside steps rest
    | '#' :: rest => skipBlanks inside steps (rest.dropWhile (· ≠ '\n'))
    | c :: rest =>
      if c = ' ' ∨ c = '\t' ∨ c = '\x0c' ∨ (inside ∧ c = '\n') then skipBlanks inside steps rest
      else some cs
    | [] => some []

/-- Digits in groups that single underscores divide, and what follows them. -/
def digitGroups (isDigit : Char → Bool) : (steps : Nat) → List Char →
    Option (List Char × List Char)
  | 0, _ => none
  | steps + 1, cs =>
    let digits := cs.takeWhile isDigit
    if digits.isEmpty then none
    else match cs.dropWhile isDigit with
      | '_' :: rest => (digitGroups isDigit steps rest).map fun (ds, rest) ↦ (digits ++ ds, rest)
      | rest => some (digits, rest)

/-- A number is followed by nothing that could belong to it. -/
def ended (f : Form) (rest : List Char) : Reading :=
  if (rest.head?.map isNameChar).getD false then none else some (f, rest)

/-- Whether digits of a base are those of a whole number beyond the range of other numbers. -/
def isHuge (base : Nat) (digits : List Char) : Bool :=
  let n := digits.foldl (fun n c ↦ n * base + (Json.hexValue? c).getD 0) 0
  match Double.ofRatio false n 1 with
  | .infinite _ => true
  | _ => false

/-- A whole number of a base, whose mark was read. -/
def based (base : Nat) (isDigit : Char → Bool) (cs : List Char) : Reading := do
  let cs := match cs with
    | '_' :: rest => rest
    | cs => cs
  let (digits, rest) ← digitGroups isDigit cs.length cs
  ended (.real (isHuge base digits)) rest

/-- The exponent and the mark of an imaginary number behind the digits `whole` of a number;
`isWhole` if they have no point. -/
def numberEnd (isWhole : Bool) (whole : List Char) (cs : List Char) : Reading := do
  let (isWhole, cs) ← match cs with
    | c :: rest =>
      if c = 'e' ∨ c = 'E' then do
        let rest := match rest with
          | '+' :: rest | '-' :: rest => rest
          | rest => rest
        let (_, rest) ← digitGroups Json.isDigit rest.length rest
        pure (false, rest)
      else pure (isWhole, cs)
    | [] => pure (isWhole, cs)
  match cs with
  | 'j' :: rest | 'J' :: rest => ended .imaginary rest
  | rest =>
    if !isWhole then ended (.real false) rest
    else if whole.head? = some '0' && whole.any (· ≠ '0') then none
    else if digitLimit < whole.length then none
    else ended (.real (isHuge 10 whole)) rest

/-- The number at the start of a text. -/
def number (cs : List Char) : Reading :=
  match cs with
  | '0' :: 'x' :: rest | '0' :: 'X' :: rest => based 16 (Json.hexValue? · |>.isSome) rest
  | '0' :: 'o' :: rest | '0' :: 'O' :: rest => based 8 (fun c ↦ '0' ≤ c && c ≤ '7') rest
  | '0' :: 'b' :: rest | '0' :: 'B' :: rest => based 2 (fun c ↦ c = '0' || c = '1') rest
  | '.' :: rest => do
    let (_, rest) ← digitGroups Json.isDigit rest.length rest
    numberEnd false [] rest
  | cs => do
    let (whole, rest) ← digitGroups Json.isDigit cs.length cs
    match rest with
    | '.' :: c :: tail =>
      if Json.isDigit c then do
        let (_, rest) ← digitGroups Json.isDigit (c :: tail).length (c :: tail)
        numberEnd false whole rest
      else numberEnd false whole (c :: tail)
    | ['.'] => some (.real false, [])
    | rest => numberEnd true whole rest

/-- What a text between quotes is written like. -/
structure Quoting where
  bytes : Bool
  raw : Bool
  triple : Bool
  quote : Char

/-- The characters behind a backslash that belong to it; none if the escape is malformed. -/
def escapeLength? (q : Quoting) (cs : List Char) : Option Nat :=
  let hexadecimal (n : Nat) : Bool :=
    n ≤ (cs.drop 1).length && ((cs.drop 1).take n).all (Json.hexValue? · |>.isSome)
  match cs with
  | [] => none
  | c :: rest =>
    if q.raw then some 1
    else if c = 'x' then if hexadecimal 2 then some 3 else none
    else if q.bytes then some 1
    else if c = 'u' then if hexadecimal 4 then some 5 else none
    else if c = 'U' then
      let n := ((rest.take 8).filterMap Json.hexValue?).foldl (fun n d ↦ n * 16 + d) 0
      if hexadecimal 8 && n < 0x110000 then some 9 else none
    else if c = 'N' then
      let name := (rest.drop 1).takeWhile (· ≠ '\x7d')
      let isName := name.all fun c ↦ c.isAlphanum || c = ' ' || c = '-'
      if rest.head? = some '\x7b' && !name.isEmpty && isName &&
          (rest.drop (name.length + 1)).head? = some '\x7d' then
        some (name.length + 3)
      else none
    else some 1

/-- The text behind the closing quotes; `skip` characters belong to an escape. -/
def quotedEnd (q : Quoting) (skip : Nat) : List Char → Option (List Char)
  | [] => none
  | c :: cs =>
    if q.bytes && 128 ≤ c.toNat then none
    else if 0 < skip then quotedEnd q (skip - 1) cs
    else if c = '\\' then
      match escapeLength? q cs with
      | some n => quotedEnd q n cs
      | none => none
    else if c = '\n' && !q.triple then none
    else if c = q.quote then
      if !q.triple then some cs
      else if cs.take 2 = [q.quote, q.quote] then some (cs.drop 2)
      else quotedEnd q 0 cs
    else quotedEnd q 0 cs

/-- The mark in front of a quoted text: whether it is of bytes and raw. -/
def mark? (mark : String) : Option (Bool × Bool) :=
  match mark.toLower with
  | "" | "u" => some (false, false)
  | "r" => some (false, true)
  | "b" => some (true, false)
  | "br" | "rb" => some (true, true)
  | _ => none

/-- The quoted text at the start of a text, and whether it is one of bytes. -/
def quoted (cs : List Char) : Option (Bool × List Char) := do
  let letters := cs.takeWhile Char.isAlpha
  let (bytes, raw) ← mark? (String.ofList letters)
  match cs.drop letters.length with
  | quote :: rest =>
    if quote = '\'' ∨ quote = '"' then
      let triple := rest.take 2 = [quote, quote]
      let rest ← quotedEnd ⟨bytes, raw, triple, quote⟩ 0 (if triple then rest.drop 2 else rest)
      return (bytes, rest)
    else none
  | [] => none

/-- Whether a quoted text comes first. -/
def startsQuoted (cs : List Char) : Bool :=
  match cs.dropWhile Char.isAlpha with
  | c :: _ => (c = '\'' || c = '"') && (mark? (String.ofList (cs.takeWhile Char.isAlpha))).isSome
  | [] => false

/-- One or more quoted texts of one kind in a row. -/
def quotedRun (inside : Bool) : (steps : Nat) → List Char → Reading
  | 0, _ => none
  | steps + 1, cs => do
    let (bytes, rest) ← quoted cs
    let f : Form := if bytes then .bytes else .text
    let next ← skipBlanks inside rest.length rest
    if startsQuoted next then
      let (g, rest) ← quotedRun inside steps next
      if g = f then return (f, rest) else none
    else return (f, next)

/-- The name at the start of a text. -/
def name (cs : List Char) : Reading :=
  let rest := cs.dropWhile isNameChar
  match String.ofList (cs.takeWhile isNameChar) with
  | "None" | "True" | "False" => some (.immutable, rest)
  | "set" => some (.setName, rest)
  | _ => none

/-- The sign of a number. -/
def Form.sign? : Form → Option Form
  | real huge => some (signed huge)
  | imaginary => some immutable
  | _ => none

/-- A sum or difference. -/
def Form.add? : Form → Form → Option Form
  | real huge, imaginary | signed huge, imaginary => if huge then none else some immutable
  | _, _ => none

mutual

/-- An expression without operators, inside `depth` pairs of brackets. -/
def primary (depth : Nat) : (steps : Nat) → List Char → Reading
  | 0, _ => none
  | steps + 1, cs => do
    let skip (cs : List Char) : Option (List Char) := skipBlanks (0 < depth) cs.length cs
    let (f, rest) ← match cs with
      | '.' :: '.' :: '.' :: rest => some (.immutable, rest)
      | '(' :: rest => if depth < 200 then brackets (depth + 1) steps rest else none
      | '\x7b' :: rest => if depth < 200 then braces (depth + 1) steps rest else none
      | c :: _ =>
        if startsQuoted cs then quotedRun (0 < depth) cs.length cs
        else if Json.isDigit c ∨ c = '.' then number cs
        else name cs
      | [] => none
    let rest ← skip rest
    match f, rest with
    | .setName, '(' :: rest =>
      match ← skipBlanks true rest.length rest with
      | ')' :: rest => return (.mutable, ← skip rest)
      | _ => none
    | f, rest => return (f, rest)

/-- What stands behind an opening bracket: nothing, an expression, or a tuple. -/
def brackets (depth : Nat) : (steps : Nat) → List Char → Reading
  | 0, _ => none
  | steps + 1, cs => do
    match ← skipBlanks true cs.length cs with
    | ')' :: rest => return (.immutable, rest)
    | cs =>
      let (f, rest) ← expression depth steps cs
      match rest with
      | ')' :: rest => return (f, rest)
      | _ =>
        let (isImmutable, rest) ← items depth steps f.isLiteral f.isImmutable rest
        match rest with
        | ')' :: rest => return (if isImmutable then .immutable else .mutable, rest)
        | _ => none

/-- Further items of a tuple, each behind a comma; tells whether all items are immutable. -/
def items (depth : Nat) : (steps : Nat) → (isLiteral isImmutable : Bool) → List Char →
    Option (Bool × List Char)
  | 0, _, _, _ => none
  | steps + 1, isLiteral, isImmutable, cs =>
    if !isLiteral then none
    else match cs with
      | ',' :: rest => do
        let next ← skipBlanks (0 < depth) rest.length rest
        match next with
        | [] | ')' :: _ | '\n' :: _ => return (isImmutable, next)
        | _ =>
          let (f, rest) ← expression depth steps next
          items depth steps f.isLiteral (isImmutable && f.isImmutable) rest
      | cs => some (isImmutable, cs)

/-- What stands behind an opening brace: nothing, or members of a set or a mapping. -/
def braces (depth : Nat) : (steps : Nat) → List Char → Reading
  | 0, _ => none
  | steps + 1, cs => do
    match ← skipBlanks true cs.length cs with
    | '\x7d' :: rest => return (.mutable, rest)
    | cs =>
      let (f, rest) ← expression depth steps cs
      if !f.isImmutable then none
      match rest with
      | ':' :: _ => members depth steps true cs
      | _ => members depth steps false cs

/-- One or more members of a set, or of a mapping, up to the closing brace. -/
def members (depth : Nat) : (steps : Nat) → (isMapping : Bool) → List Char → Reading
  | 0, _, _ => none
  | steps + 1, isMapping, cs => do
    let (f, rest) ← expression depth steps cs
    if !f.isImmutable then none
    let rest ← if isMapping then
        match rest with
        | ':' :: rest => do
          let (v, rest) ← expression depth steps (← skipBlanks true rest.length rest)
          if v.isLiteral then some rest else none
        | _ => none
      else some rest
    match rest with
    | '\x7d' :: rest => return (.mutable, rest)
    | ',' :: rest =>
      match ← skipBlanks true rest.length rest with
      | '\x7d' :: rest => return (.mutable, rest)
      | next => members depth steps isMapping next
    | _ => none

/-- A sign and an expression without operators. -/
def term (depth : Nat) : (steps : Nat) → List Char → Reading
  | 0, _ => none
  | steps + 1, cs =>
    match cs with
    | '+' :: rest | '-' :: rest => do
      let (f, rest) ← primary depth steps (← skipBlanks (0 < depth) rest.length rest)
      return (← f.sign?, rest)
    | cs => primary depth steps cs

/-- An expression; blanks behind it are skipped. -/
def expression (depth : Nat) : (steps : Nat) → List Char → Reading
  | 0, _ => none
  | steps + 1, cs => do
    let (f, rest) ← term depth steps cs
    match rest with
    | '+' :: rest | '-' :: rest => do
      let (g, rest) ← primary depth steps (← skipBlanks (0 < depth) rest.length rest)
      return (← f.add? g, rest)
    | rest => return (f, rest)

end

/-- Skips lines that hold nothing but a comment. -/
def skipComments : (steps : Nat) → List Char → List Char
  | 0, cs => cs
  | steps + 1, cs =>
    match cs.dropWhile fun c ↦ c = ' ' || c = '\t' || c = '\x0c' with
    | '#' :: rest => skipComments steps ((rest.dropWhile (· ≠ '\n')).drop 1)
    | '\n' :: rest => skipComments steps rest
    | _ => cs

/-- The column at which the first character of a line stands and the text from there, behind `column`
blanks; where a line goes on, the first of its parts that is indented counts. -/
def indented (column first : Nat) : List Char → Nat × List Char
  | ' ' :: cs | '\t' :: cs => indented (column + 1) first cs
  | '\x0c' :: cs => indented 0 first cs
  | '\\' :: '\n' :: cs => indented column (if first = 0 then column else first) cs
  | cs => (if first = 0 then column else first, cs)

/-- The text from the first line that holds more than a comment, unless that line is indented. -/
def fromFirstLine : (steps : Nat) → List Char → Option (List Char)
  | 0, cs => some cs
  | steps + 1, cs =>
    match indented 0 0 cs with
    | (_, '#' :: rest) => fromFirstLine steps ((rest.dropWhile (· ≠ '\n')).drop 1)
    | (_, '\n' :: rest) => fromFirstLine steps rest
    | (0, rest) => some rest
    | _ => none

/-- Whether a text without blanks around it is a literal, perhaps a tuple without brackets. -/
def isLiteral (text : List Char) : Bool :=
  let steps := 8 * text.length + 8
  let reading : Option Unit := do
    if text.contains '\x00' then none
    let cs ← fromFirstLine text.length (Text.withLineFeeds text)
    let (f, rest) ← expression 0 steps cs
    let (_, rest) ← items 0 steps f.isLiteral f.isImmutable rest
    if (skipComments rest.length rest).isEmpty then some () else none
  reading.isSome

end Apake.Literal
