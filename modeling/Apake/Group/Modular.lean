/-!
# Powers modulo a number

Exponentiation by repeated squaring on natural numbers.  The main statement says that it computes
the power modulo `m`.
-/

namespace Apake.Modular

attribute [local instance (2000)] instPowNat

/-- `acc * base ^ e % m` for every `e < 2 ^ steps`, from the lowest bit of `e` up. -/
def powerLoop (m : Nat) : (steps base e acc : Nat) → Nat
  | 0, _, _, acc => acc % m
  | steps + 1, base, e, acc =>
    powerLoop m steps (base * base % m) (e / 2) (if e % 2 = 1 then acc * base % m else acc)

/-- `base ^ e % m`. -/
def power (base e m : Nat) : Nat := powerLoop m (e.log2 + 1) (base % m) e 1

/-- The inverse of `a` modulo a prime `p`, which is `a ^ (p - 2)`. -/
def inverse (a p : Nat) : Nat := power a (p - 2) p

theorem powerLoop_eq (m steps base e acc : Nat) (h : e < 2 ^ steps) :
    powerLoop m steps base e acc = acc * base ^ e % m := by
  induction steps generalizing base e acc with
  | zero =>
    have : e = 0 := by simpa using h
    subst this
    simp [powerLoop]
  | succ steps ih =>
    have hhalf : e / 2 < 2 ^ steps := by omega
    rw [powerLoop, ih _ _ _ hhalf]
    have hsq : (base * base % m) ^ (e / 2) % m = base ^ (2 * (e / 2)) % m := by
      rw [← Nat.pow_mod, Nat.pow_mul, Nat.pow_two]
    split
    next hodd =>
      have he : base ^ e = base * base ^ (2 * (e / 2)) := by
        rw [← Nat.pow_succ']
        congr 1
        omega
      rw [he, ← Nat.mul_assoc, Nat.mul_mod, hsq, Nat.mod_mod, ← Nat.mul_mod]
    next heven =>
      have he : 2 * (e / 2) = e := by omega
      rw [Nat.mul_mod, hsq, ← Nat.mul_mod, he]

theorem power_eq (base e m : Nat) : power base e m = base ^ e % m := by
  have h : e < 2 ^ (e.log2 + 1) := by
    by_cases h0 : e = 0
    · subst h0
      exact Nat.two_pow_pos _
    · exact Nat.lt_log2_self
  rw [power, powerLoop_eq m _ _ e 1 h, Nat.one_mul, ← Nat.pow_mod]

end Apake.Modular
