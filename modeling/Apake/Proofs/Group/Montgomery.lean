import Apake.Group.Montgomery

/-!
# The coordinate zero on the Montgomery curve

Zero is the coordinate of a point of order two, and every scalar counts as a multiple of eight.  So
whatever the scalar is, the ladder ends in the neutral element, whose coordinate is written as zero.
-/

namespace Apake.Montgomery

/-- A pair of points that both have no coordinate. -/
structure Pair.Vanishes (p : Pair) : Prop where
  z2 : p.z2 = 0
  z3 : p.z3 = 0

theorem Pair.Vanishes.swap {p : Pair} (h : p.Vanishes) : p.swap.Vanishes := ⟨h.z3, h.z2⟩

/-- Where the difference has the coordinate zero, points without a coordinate stay so. -/
theorem Pair.Vanishes.step {p : Pair} (h : p.Vanishes) : (p.step 0).Vanishes := by
  obtain ⟨x2, z2, x3, z3⟩ := p
  obtain rfl : z2 = 0 := h.z2
  have hsquares : (x2 + fieldPrime) * (x2 + fieldPrime) % fieldPrime = x2 * x2 % fieldPrime := by
    rw [Nat.mul_mod, Nat.add_mod_right, ← Nat.mul_mod]
  constructor
  · simp only [Pair.step, Nat.add_zero, Nat.sub_zero, hsquares, Nat.add_sub_cancel_left,
      Nat.mul_mod_right]
  · simp only [Pair.step, Nat.zero_mul, Nat.zero_mod]

/-- So they do on the whole ladder. -/
theorem Pair.Vanishes.ladder {p : Pair} (h : p.Vanishes) (k bits : Nat) :
    (Montgomery.ladder 0 k bits p).Vanishes := by
  induction bits generalizing p with
  | zero => exact h
  | succ bits ih =>
    rw [Montgomery.ladder]
    split
    · exact ih h.swap.step.swap
    · exact ih h.step

/-- The first step from the neutral element and the coordinate zero leaves no coordinate. -/
theorem vanishes_ladder (k bits : Nat) : (ladder 0 k (bits + 1) ⟨1, 0, 0, 1⟩).Vanishes := by
  rw [ladder]
  split
  · have hfirst : (((⟨1, 0, 0, 1⟩ : Pair).swap.step 0).swap).Vanishes :=
      ⟨by decide, by decide⟩
    exact hfirst.ladder k bits
  · have hfirst : ((⟨1, 0, 0, 1⟩ : Pair).step 0).Vanishes := ⟨by decide, by decide⟩
    exact hfirst.ladder k bits

/-- Every multiple of the coordinate zero is zero. -/
theorem multiply_zeros (scalar : Bytes) : multiply scalar (Bytes.zeros 32) = Bytes.zeros 32 := by
  have hcoordinate : Bytes.toNatLE (Bytes.zeros 32) % (1 <<< 255) % fieldPrime = 0 := by decide
  have hinverse : Modular.inverse 0 fieldPrime = 0 := by
    rw [Modular.inverse, Modular.power_eq, Nat.zero_pow (by decide), Nat.zero_mod]
  have hzero : Bytes.ofNatLE 32 0 = Bytes.zeros 32 := by decide
  unfold multiply
  rw [hcoordinate]
  dsimp only
  rw [(vanishes_ladder (clamp scalar) 254).z2, hinverse, Nat.mul_zero, Nat.zero_mod, hzero]

end Apake.Montgomery
