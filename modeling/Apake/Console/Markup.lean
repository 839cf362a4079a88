import Apake.Console.Emoji
import Apake.Console.Literal
import Apake.Console.Style

/-!
# Marked-up text

Texts for the terminal carry style tags in square brackets, which a terminal without styles drops,
and names of pictures between colons.  A tag starts with a small letter, `#`, `@` or `/`; a
backslash in front of it makes it plain text.  A tag that closes a style must have one to close.
What stands behind an equals sign are parameters: those of an event, which starts with `@`, must be a
literal when the event is closed; those of a style belong to its description.
-/

namespace Apake.Markup

/-- A tag: its name and its parameters, if it has any. -/
structure Tag where
  name : List Char
  parameters : Option (List Char) := none
  deriving DecidableEq

/-- A piece of a marked-up text. -/
inductive Piece
  | plain (text : List Char)
  | opening (tag : Tag)
  /-- Ends the last style of a name, or the last of all where the name is empty. -/
  | closing (name : List Char)
  deriving DecidableEq

/-- Whether a tag can start with a character. -/
def startsTag (c : Char) : Bool := c.isLower || c = '#' || c = '@' || c = '/'

/-- What stands in a tag whose bracket was just opened, and what follows the tag. -/
def tag? : List Char → Option (List Char × List Char)
  | [] => none
  | c :: cs =>
    if startsTag c then
      let inside (c : Char) : Bool := c ≠ '[' && c ≠ ']'
      match cs.dropWhile inside with
      | ']' :: rest => some (c :: cs.takeWhile inside, rest)
      | _ => none
    else none

/-- A text without blanks around it. -/
def strip (cs : List Char) : List Char := Text.stripEnd (cs.dropWhile Text.isBlank)

/-- The piece that a tag stands for. -/
def Piece.ofTag (cs : List Char) : Piece :=
  let name := cs.takeWhile (· ≠ '=')
  match name with
  | '/' :: name => closing (strip name)
  | name =>
    opening ⟨name, if name.length < cs.length then some (cs.drop (name.length + 1)) else none⟩

/-- The visible form of plain text: a bracket needs no backslash, and named pictures are shown. -/
def shown (cs : List Char) : List Char :=
  let rec brackets : List Char → List Char
    | '\\' :: '[' :: rest => '[' :: brackets rest
    | c :: rest => c :: brackets rest
    | [] => []
  Emoji.replace (brackets cs)

/-- The pieces of a text of fewer than `steps` characters behind some plain text, which is given last
character first. -/
def pieces : (steps : Nat) → (before : List Char) → List Char → List Piece
  | 0, before, _ => [.plain before.reverse]
  | steps + 1, before, cs =>
    let slashes := cs.takeWhile (· = '\\')
    match cs.dropWhile (· = '\\') with
    | '[' :: rest =>
      match tag? rest with
      | some (tag, rest) =>
        let piece :=
          if slashes.length % 2 = 1 then .plain ('[' :: tag ++ [']']) else Piece.ofTag tag
        .plain before.reverse :: .plain (slashes.take (slashes.length / 2)) :: piece ::
          pieces steps [] rest
      | none => pieces steps ('[' :: slashes ++ before) rest
    | c :: rest => pieces steps (c :: slashes ++ before) rest
    | [] => [.plain (slashes ++ before).reverse]

/-- The literal that the parameters of an event hold: what stands in brackets behind a name, nothing
where there is only a name, or else all of it. -/
def eventLiteral (parameters : List Char) : List Char :=
  let isName (c : Char) : Bool := Text.isWord c || c = '.'
  match parameters.dropWhile isName with
  | [] => ['(', ')']
  | rest =>
    let isCall := rest.head? = some '(' && rest.getLast? = some ')' && !rest.contains '\n'
    if isCall then rest else parameters

/-- Refuses an event whose parameters are no literal. -/
def Tag.checkEvent (t : Tag) : Except Error Unit :=
  let parameters := t.parameters.getD []
  if parameters.isEmpty || Literal.isLiteral (eventLiteral (strip parameters)) then .ok ()
  else .error .badMarkup

/-- The description of the style of a tag. -/
def Tag.style (t : Tag) : List Char :=
  t.name ++ (t.parameters.map (' ' :: ·)).getD []

/-- How far a text has been shown: the visible text, the open tags, last one first, and the styles
that text has. -/
structure Sheet where
  text : List Char := []
  stack : List Tag := []
  styles : List (List Char) := []

/-- Takes in one more piece. -/
def Sheet.add (s : Sheet) : Piece → Except Error Sheet
  | .plain text => .ok { s with text := s.text ++ shown text }
  | .opening tag => do
    let name ← Style.normal tag.name
    return { s with stack := { tag with name } :: s.stack }
  | .closing name => do
    let name ← if name.isEmpty then pure name else Style.normal name
    match s.stack.find? fun tag ↦ name.isEmpty || tag.name = name with
    | none => throw Error.badMarkup
    | some tag =>
      let s := { s with stack := s.stack.erase tag }
      if tag.name.head? = some '@' then
        tag.checkEvent
        return s
      else return { s with styles := tag.style :: s.styles }

/-- Whether a terminal would act on a character instead of showing it. -/
def isControl (c : Char) : Bool := [7, 8, 11, 12, 13].contains c.toNat

/-- The visible text of a marked-up text. -/
def plain (text : String) : Except Error (List Char) := do
  let s ← (pieces (text.length + 1) [] text.toList).foldlM Sheet.add {}
  (s.styles ++ s.stack.map Tag.style).forM fun style ↦ do
    let _ ← Style.ofText? style
  return s.text.filter (!isControl ·)

end Apake.Markup
