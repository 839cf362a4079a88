import Apake.Json.Key

/-!
# Changing a place in a JSON value

A path leads from value to value by keys.  What its last key leads to is set or erased; a path that
leads nowhere is refused.  The library itself reads and writes its files whole and never changes a
place in one: this is how a file is tampered with, so that what reading makes of it can be tried.
-/

namespace Apake.Json

/-- The name under which a key that is not a text is written. -/
def memberName : Json → Units
  | text us => us
  | v => Units.ofString (String.ofList (render .line v))

/-- Sets a member or an item. -/
def put (key value : Json) : Json → Except Error Json
  | object ms => do
    checkKey key
    match key with
    | text us => return object (insert us value ms)
    | key => return object (ms ++ [(key.memberName, value)])
  | array vs => do
    match ← place? vs.length key with
    | some i => return array (vs.set i value)
    | none => throw .missingItem
  | v => throw (.wrongKind s!"'{v.kindName}' object does not support item assignment")

/-- Erases a member or an item. -/
def erase (key : Json) : Json → Except Error Json
  | object ms => do
    let _ ← child key (object ms)
    return object (ms.filter (·.1 ≠ key.memberName))
  | array vs => do
    match ← place? vs.length key with
    | some i => return array (vs.eraseIdx i)
    | none => throw .missingItem
  | v => throw (.wrongKind s!"'{v.kindName}' object doesn't support item deletion")

/-- Sets the place at the end of a path to a value, or erases it where there is none. -/
def edit (value? : Option Json) : List Json → Json → Except Error Json
  | [], _ => .error .missingItem
  | [key], j =>
    match value? with
    | some value => put key value j
    | none => erase key j
  | key :: rest, j => do
    let changed ← edit value? rest (← child key j)
    put key changed j

end Apake.Json
