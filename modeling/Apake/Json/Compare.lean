import Apake.Error
import Apake.Json.Value
import Apake.Number.Amount

/-!
# Comparing JSON values

Values are of seven kinds.  Numbers and truth values are compared by value, texts by code points,
lists item by item; whatever else is to be ordered is of the wrong kind.  Being of equal value is
coarser than being the same: `true` equals `1`, and `1` equals `1.0`.
-/

namespace Apake.Json

/-- The name of a value's kind in messages. -/
def kindName : Json → String
  | null => "NoneType"
  | bool _ => "bool"
  | integer _ => "int"
  | decimal _ => "float"
  | text _ => "str"
  | array _ => "list"
  | object _ => "dict"

/-- The value of a number; a truth value counts as one or zero. -/
def amount? : Json → Option Amount
  | bool b => some (Amount.ofInt (if b then 1 else 0))
  | integer n => some (Amount.ofInt n)
  | decimal x => some (Amount.ofDouble x)
  | _ => none

mutual

/-- Whether two values are of equal value; the order of members does not matter. -/
def same : Json → Json → Bool
  | null, w => w = null
  | text us, w => w = text us
  | array vs, array ws => sameItems vs ws
  | object ms, object ns => ms.length = ns.length && sameMembers ms ns
  | bool b, w => (w.amount?.map (Amount.ofInt (if b then 1 else 0)).same).getD false
  | integer n, w => (w.amount?.map (Amount.ofInt n).same).getD false
  | decimal x, w => (w.amount?.map (Amount.ofDouble x).same).getD false
  | _, _ => false

/-- Whether two lists are of equal value, item by item. -/
def sameItems : List Json → List Json → Bool
  | [], [] => true
  | v :: vs, w :: ws => same v w && sameItems vs ws
  | _, _ => false

/-- Whether all members of one object stand in another with equal values. -/
def sameMembers : List (Units × Json) → List (Units × Json) → Bool
  | [], _ => true
  | (k, v) :: ms, ns => ns.any (fun (l, w) ↦ l = k && same v w) && sameMembers ms ns

end

private theorem amount_same_self (x : Amount) : x.same x = true := by
  cases x <;> simp [Amount.same]

mutual

/-- A value is of equal value as itself. -/
@[simp] theorem same_self : ∀ v : Json, v.same v = true
  | null => by simp [same]
  | text us => by simp [same]
  | bool b => by simp [same, amount?, amount_same_self]
  | integer n => by simp [same, amount?, amount_same_self]
  | decimal x => by simp [same, amount?, amount_same_self]
  | array vs => by
    rw [same]
    exact sameItems_self vs
  | object ms => by
    rw [same, sameMembers_of_subset ms ms fun _ h ↦ h]
    simp

/-- A list is of equal value as itself. -/
theorem sameItems_self : ∀ vs : List Json, sameItems vs vs = true
  | [] => rfl
  | v :: vs => by rw [sameItems, same_self v, sameItems_self vs, Bool.and_self]

/-- Members of an object stand in it with equal values. -/
theorem sameMembers_of_subset : ∀ ms ns : List (Units × Json), (∀ m ∈ ms, m ∈ ns) →
    sameMembers ms ns = true
  | [], _, _ => rfl
  | (k, v) :: ms, ns, h => by
    have hfirst : ns.any (fun (l, w) ↦ l = k && same v w) = true := by
      refine List.any_eq_true.mpr ⟨(k, v), h _ List.mem_cons_self, ?_⟩
      simp [same_self v]
    rw [sameMembers, hfirst, sameMembers_of_subset ms ns fun m hm ↦ h m (List.mem_cons_of_mem _ hm),
      Bool.and_self]

end

/-- The failure to order two values. -/
def unordered (v w : Json) : Error :=
  .wrongKind
    s!"'<' not supported between instances of '{v.kindName}' and '{w.kindName}'"

mutual

/-- Whether one value is less than another, if they can be ordered. -/
def less : Json → Json → Except Error Bool
  | text us, text vs => .ok (us.codePoints < vs.codePoints)
  | array vs, array ws => lessItems vs ws
  | v, w =>
    match v.amount?, w.amount? with
    | some a, some b => .ok (a.less b)
    | _, _ => .error (unordered v w)

/-- Whether one list is less than another: the first items of different value decide, or else the
length. -/
def lessItems : List Json → List Json → Except Error Bool
  | _, [] => .ok false
  | [], _ :: _ => .ok true
  | v :: vs, w :: ws => if same v w then lessItems vs ws else less v w

end

/-- A text or a list repeated, or a number multiplied. -/
def times (n : Nat) : Json → Except Error Json
  | bool b => .ok (integer (if b then n else 0))
  | integer m => .ok (integer (n * m))
  | decimal x =>
    .ok <| decimal <| match x with
      | .finite negative mantissa exponent =>
        let (bottom, top) := Double.scaled 1 mantissa exponent
        Double.ofRatio negative (n * top) bottom
      | x => x
  | text us => .ok (text (List.replicate n us).flatten)
  | array vs => .ok (array (List.replicate n vs).flatten)
  | v => .error (.wrongKind s!"unsupported operand type(s) for *: 'int' and '{v.kindName}'")

end Apake.Json
