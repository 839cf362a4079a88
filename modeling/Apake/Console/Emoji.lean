import Apake.Console.EmojiNames
import Apake.Text.Blank
import Apake.Text.Lines
import Apake.Text.Lower

/-!
# Named pictures

A name between colons stands for a picture; an ending of the name asks for its form as text or as a
coloured picture.  What is no name of a picture stays as it is.
-/

namespace Apake.Emoji

/-- Every second item paired with the one before. -/
def pairs : List String → List (String × String)
  | name :: picture :: rest => (name, picture) :: pairs rest
  | _ => []

/-- All pictures by their names. -/
def pictures : List (String × String) := pairs (Text.words names)

/-- The endings that select a form, with the selectors of the forms. -/
def selectors : List (List Char × Char) := [
  ("-emoji".toList, Char.ofNat 0xfe0f), ("-text".toList, Char.ofNat 0xfe0e)]

/-- A name without an ending that selects a form, and the selector of the form. -/
def splitForm (name : List Char) : List Char × List Char :=
  match selectors.find? fun (ending, _) ↦ ending.isSuffixOf name with
  | some (ending, selector) => (name.take (name.length - ending.length), [selector])
  | none => (name, [])

/-- The picture that a name between colons stands for. -/
def picture? (name : List Char) : Option (List Char) :=
  let (name, selector) := splitForm name
  (pictures.lookup (String.ofList (Text.lower name))).map (·.toList ++ selector)

/-- A text with pictures in place of their names; `name` holds the characters behind the last colon
that may open a name, last one first. -/
def replaceFrom (name : Option (List Char)) : List Char → List Char
  | [] => (name.map fun name ↦ ':' :: name.reverse).getD []
  | c :: cs =>
    match name with
    | none => if c = ':' then replaceFrom (some []) cs else c :: replaceFrom none cs
    | some name =>
      if c = ':' then
        (picture? name.reverse).getD (':' :: name.reverse ++ [':']) ++ replaceFrom none cs
      else if Text.isBlank c then ':' :: name.reverse ++ c :: replaceFrom none cs
      else replaceFrom (some (c :: name)) cs

/-- A text with pictures in place of their names. -/
def replace (cs : List Char) : List Char := replaceFrom none cs

end Apake.Emoji
