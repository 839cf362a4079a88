import Mathlib.Data.List.Prime
import Mathlib.NumberTheory.LucasPrimality
import Apake.Group.Modular

/-!
# Certificates for large primes

A number is prime if some base has order `p - 1` modulo it.  A certificate names the base and the
prime factors of `p - 1`, each certified before, and is checked by a few modular powers.
-/

namespace Apake.Modular

/-- Whether `a` has order `p - 1` modulo `p`, where `factors` are the prime factors of `p - 1`. -/
def certifies (p a : Nat) (factors : List Nat) : Bool :=
  2 ≤ p && factors.prod = p - 1 && power a (p - 1) p = 1 &&
    factors.all fun q ↦ power a ((p - 1) / q) p ≠ 1

private theorem cast_pow_eq_one_iff {p a n : Nat} (hp : 2 ≤ p) :
    (a : ZMod p) ^ n = 1 ↔ power a n p = 1 := by
  have hone : 1 % p = 1 := Nat.mod_eq_of_lt hp
  rw [← Nat.cast_pow, ← Nat.cast_one, ZMod.natCast_eq_natCast_iff', hone, power_eq]

/-- A certified number is prime, given that the listed factors are. -/
theorem prime_of_certifies {p : Nat} (a : Nat) (factors : List Nat)
    (hfactors : ∀ q ∈ factors, q.Prime) (h : certifies p a factors = true) : p.Prime := by
  simp only [certifies, Bool.and_eq_true, decide_eq_true_eq, List.all_eq_true] at h
  obtain ⟨⟨⟨hp, hproduct⟩, hone⟩, hne⟩ := h
  refine lucas_primality p a ((cast_pow_eq_one_iff hp).mpr hone) fun q hq hdvd ↦ ?_
  rw [← hproduct] at hdvd
  obtain ⟨r, hr, hqr⟩ := (Prime.dvd_prod_iff hq.prime).mp hdvd
  have heq : q = r := (Nat.prime_dvd_prime_iff_eq hq (hfactors r hr)).mp hqr
  rw [heq, ne_eq, cast_pow_eq_one_iff hp]
  exact hne r hr

end Apake.Modular
