import Apake.Number.Double
import Apake.Text.Units

/-!
# JSON values

Values keep the order of their members, tell integers from other numbers, and allow unpaired
surrogates in texts.  An object that was read has at most one member of each name: a later one takes
the place of an earlier one.
-/

namespace Apake

/-- A JSON value. -/
inductive Json
  | null
  | bool (b : Bool)
  | integer (value : Int)
  /-- A number with a fraction or an exponent, or one that is not finite. -/
  | decimal (value : Double)
  | text (units : Units)
  | array (items : List Json)
  | object (members : List (Units × Json))

namespace Json

/-- A text value. -/
def ofString (s : String) : Json := text (Units.ofString s)

/-- Puts a member into a list of members, in the place of one of the same name if there is one. -/
def insert {α : Type} (key : Units) (value : α) : List (Units × α) → List (Units × α)
  | [] => [(key, value)]
  | (k, v) :: rest => if k = key then (k, value) :: rest else (k, v) :: insert key value rest

/-- The members of an object. -/
def members? : Json → Option (List (Units × Json))
  | object ms => some ms
  | _ => none

/-- The member of a given name, if the value is an object that has one. -/
def get? (j : Json) (key : String) : Option Json :=
  j.members?.bind fun ms ↦ ms.lookup (Units.ofString key)

mutual

/-- Decides whether two values are the same. -/
def decEq : (a b : Json) → Decidable (a = b)
  | null, null => isTrue rfl
  | bool a, bool b => decidable_of_iff (a = b) (by simp)
  | integer a, integer b => decidable_of_iff (a = b) (by simp)
  | decimal a, decimal b => decidable_of_iff (a = b) (by simp)
  | text a, text b => decidable_of_iff (a = b) (by simp)
  | array a, array b =>
    match decEqItems a b with
    | isTrue h => isTrue (by rw [h])
    | isFalse h => isFalse (by simpa using h)
  | object a, object b =>
    match decEqMembers a b with
    | isTrue h => isTrue (by rw [h])
    | isFalse h => isFalse (by simpa using h)
  | null, bool _ | null, integer _ | null, decimal _ | null, text _ | null, array _
  | null, object _ | bool _, null | bool _, integer _ | bool _, decimal _ | bool _, text _
  | bool _, array _ | bool _, object _ | integer _, null | integer _, bool _
  | integer _, decimal _ | integer _, text _ | integer _, array _ | integer _, object _
  | decimal _, null | decimal _, bool _ | decimal _, integer _ | decimal _, text _
  | decimal _, array _ | decimal _, object _ | text _, null | text _, bool _ | text _, integer _
  | text _, decimal _ | text _, array _ | text _, object _ | array _, null | array _, bool _
  | array _, integer _ | array _, decimal _ | array _, text _ | array _, object _
  | object _, null | object _, bool _ | object _, integer _ | object _, decimal _
  | object _, text _ | object _, array _ => isFalse nofun

/-- Decides whether two lists of values are the same. -/
def decEqItems : (a b : List Json) → Decidable (a = b)
  | [], [] => isTrue rfl
  | v :: vs, w :: ws =>
    match decEq v w, decEqItems vs ws with
    | isTrue h, isTrue hs => isTrue (by rw [h, hs])
    | isFalse h, _ => isFalse (by simp [h])
    | _, isFalse hs => isFalse (by simp [hs])
  | [], _ :: _ | _ :: _, [] => isFalse nofun

/-- Decides whether two lists of members are the same. -/
def decEqMembers : (a b : List (Units × Json)) → Decidable (a = b)
  | [], [] => isTrue rfl
  | (k, v) :: ms, (l, w) :: ns =>
    match decEq v w, decEqMembers ms ns with
    | isTrue h, isTrue hs => decidable_of_iff (k = l) (by simp [h, hs])
    | isFalse h, _ => isFalse (by simp [h])
    | _, isFalse hs => isFalse (by simp [hs])
  | [], _ :: _ | _ :: _, [] => isFalse nofun

end

instance : DecidableEq Json := decEq

end Json

end Apake
