import Apake.Console.Disk
import Apake.Console.Markup
import Apake.Console.Page
import Apake.Console.Wrap
import Apake.Random
import Apake.Text.Lines

/-!
# The terminal

A terminal program shows text, asks questions, draws random bytes and works on a disk.  What the
user types is given beforehand, as far as it is known: a program that needs more stops and tells
what it waits for, so a dialogue goes on by running the program again with one more answer.
-/

namespace Apake.Console

/-- A question that is asked until its answer is accepted. -/
structure Question where
  text : String
  hidden : Bool := false
  /-- What is wrong with an answer, if anything. -/
  complaint? : String → Option String := fun _ ↦ none

/-- A question as it was asked, with what was said about the answer. -/
structure Asked where
  text : String
  hidden : Bool
  complaint : Option String
  deriving DecidableEq

/-- What a user types, line by line; `none` interrupts a question and ends the input of the menu. -/
abbrev Typed := List (Option String)

/-- The lines of a text, and then the end of what is typed. -/
def Typed.ofText (s : String) : Typed := (Text.lines s).map some ++ [none]

/-- What became of a question. -/
inductive Reaction
  | answered (text : String) (rest : Typed)
  | interrupted (rest : Typed)
  /-- Nothing is typed yet. -/
  | waiting

/-- Why a program stops before its end. -/
inductive Stop
  /-- A refusal in words. -/
  | refused (message : Units)
  /-- The second password differs from the first. -/
  | mismatch
  /-- A question was interrupted. -/
  | interrupted
  /-- The input of the menu is at its end. -/
  | ended
  /-- A failure that is not told in words. -/
  | failed (e : Error)
  /-- An answer is needed to go on: to a question, or else to the menu. -/
  | waiting (question : Option Question)

/-- What a program works on. -/
structure Terminal where
  disk : Disk
  entropy : Entropy
  /-- Answers to questions. -/
  answers : Typed := []
  /-- Answers to the menu. -/
  choices : Typed := []
  /-- The questions asked so far. -/
  asked : List Asked := []
  /-- The text shown so far. -/
  shown : String := ""
  /-- Whether a text is stuck that cannot be shown, so that nothing can be shown any more. -/
  stuck : Bool := false

/-- A terminal program; what it did stays done if it stops. -/
abbrev Program := ExceptT Stop (StateM Terminal)

/-- Asks until an answer is accepted. -/
def Question.pose (q : Question) : Typed → List Asked × Reaction
  | [] => ([], .waiting)
  | none :: rest => ([], .interrupted rest)
  | some answer :: rest =>
    match q.complaint? answer with
    | none => ([⟨q.text, q.hidden, none⟩], .answered answer rest)
    | some complaint =>
      let (asked, reaction) := q.pose rest
      (⟨q.text, q.hidden, some complaint⟩ :: asked, reaction)

/-- The choice that an answer to the menu stands for; an empty answer is the second. -/
def choice? (line : String) : Option String :=
  if line = "" then some "2"
  else
    let choice := Text.strip line
    if ["1", "2", "3", "4"].contains choice then some choice else none

/-- Shows the question of the menu until an answer is a choice. -/
def poseMenu : Typed → String × Reaction
  | [] => (menuQuestion, .waiting)
  | none :: rest => (menuQuestion, .interrupted rest)
  | some line :: rest =>
    match choice? line with
    | some choice => (menuQuestion, .answered choice rest)
    | none =>
      let (shown, reaction) := poseMenu rest
      (menuQuestion ++ menuComplaint ++ "\n" ++ shown, reaction)

namespace Program

/-- Stops for a failure. -/
def fail {α : Type} (e : Error) : Program α := throw (.failed e)

/-- Shows text as it is. -/
def print (text : String) : Program Unit := do
  if (← get).stuck then fail .unencodableText
  modify fun t ↦ { t with shown := t.shown ++ text }

/-- Shows lines as they are. -/
def printLines (lines : List String) : Program Unit :=
  print (String.join (lines.map (· ++ "\n")))

/-- Shows marked-up text on lines of its own. -/
def say (text : String) : Program Unit :=
  match Markup.plain text with
  | .ok cs => printLines ((Wrap.lines width cs).map String.ofList)
  | .error e => fail e

/-- Shows marked-up text that may hold unpaired surrogates; if it does, it gets stuck. -/
def sayUnits (text : Units) : Program Unit := do
  if (text.toString?).isNone && (Markup.plain text.toText).toBool then
    modify fun t ↦ { t with stuck := true }
  say text.toText

/-- Asks a question. -/
def ask (q : Question) : Program String := do
  let (asked, reaction) := q.pose (← get).answers
  modify fun t ↦ { t with asked := t.asked ++ asked }
  match reaction with
  | .answered answer rest =>
    modify fun t ↦ { t with answers := rest }
    return answer
  | .interrupted _ => throw .interrupted
  | .waiting => throw (.waiting (some q))

/-- Asks for a choice from the menu. -/
def choose : Program String := do
  let (shown, reaction) := poseMenu (← get).choices
  print shown
  match reaction with
  | .answered choice rest =>
    modify fun t ↦ { t with choices := rest }
    return choice
  | .interrupted _ => throw .ended
  | .waiting => throw (.waiting none)

/-- A result whose failure is told in words if it is one of the protocol's. -/
def lift {α : Type} : Except Error α → Program α
  | .ok a => pure a
  | .error e =>
    if e.isProtocol then throw (.refused (Units.ofString "Error: " ++ e.units)) else fail e

/-- Runs a computation on the entropy supply. -/
def draw {α : Type} (d : Draw α) : Program (Except Error α) :=
  modifyGet fun t ↦
    let (result, entropy) := d.runOn t.entropy
    (result, { t with entropy })

end Program

end Apake.Console
