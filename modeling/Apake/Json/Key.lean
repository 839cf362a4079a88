import Apake.Json.Compare
import Apake.Json.Printer
import Apake.Text.Quoted

/-!
# Keys

A key leads from a value to one inside it: a text names a member, a whole number counts the items of
a list or the characters of a text, from the end where it is negative.
-/

namespace Apake.Json

/-- A key as it is written in a message. -/
def shownKey : Json → String
  | text us => Quoted.ofUnits us
  | bool true => "True"
  | bool false => "False"
  | null => "None"
  | decimal x => x.text
  | v => String.ofList (render .line v)

/-- The place that a whole number counts, from the end where it is negative. -/
def place? (size : Nat) (key : Json) : Except Error (Option Nat) :=
  let within (n : Int) : Option Nat :=
    let n := if n < 0 then n + size else n
    if 0 ≤ n ∧ n < size then some n.toNat else none
  match key with
  | integer n => .ok (within n)
  | bool b => .ok (within (if b then 1 else 0))
  | key =>
    .error (.wrongKind s!"list indices must be integers or slices, not {key.kindName}")

/-- Refuses a value that cannot be a key. -/
def checkKey : Json → Except Error Unit
  | array _ => .error (.wrongKind "unhashable type: 'list'")
  | object _ => .error (.wrongKind "unhashable type: 'dict'")
  | _ => .ok ()

/-- The value that one step leads to. -/
def child (key : Json) : Json → Except Error Json
  | object ms => do
    checkKey key
    match key with
    | text us =>
      match ms.lookup us with
      | some v => return v
      | none => throw (.missingKey key.shownKey)
    | key => throw (.missingKey key.shownKey)
  | array vs => do
    match ← place? vs.length key with
    | some i => return vs.getD i null
    | none => throw .missingItem
  | text us =>
    match key with
    | integer _ | bool _ => do
      match ← place? us.codePoints.length key with
      | some i => return text (Units.ofCodePoint (us.codePoints.getD i 0))
      | none => throw .missingItem
    | key => throw (.wrongKind s!"string indices must be integers, not '{key.kindName}'")
  | v => throw (.wrongKind s!"'{v.kindName}' object is not subscriptable")

end Apake.Json
