import Apake.Json.Compare

/-!
# Settings

The parameters of a stretching function are kept as they were given, whatever their kind; they are
looked at where they are checked and where they are used.
-/

namespace Apake.Stretching

-- Powers are the built-in ones wherever this module is read.
attribute [local instance (2000)] instPowNat

/-- A parameter as it was given; none where it is null. -/
abbrev Setting := Json

/-- The value of a setting that must be a whole number of so many bits. -/
def Setting.count (bits : Nat) : Setting → Except Error Nat
  | .integer n => if 0 ≤ n ∧ n < (2 ^ bits : Nat) then .ok n.toNat else .error .overflow
  | .bool b => .ok b.toNat
  | v => .error (.wrongKind s!"'{v.kindName}' object cannot be interpreted as an integer")

/-- The memory, in bytes, up to which a function is run. -/
def memoryLimit : Nat := 8589934592

end Apake.Stretching
