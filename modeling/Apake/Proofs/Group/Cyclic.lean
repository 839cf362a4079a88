import Mathlib.GroupTheory.SpecificGroups.Cyclic
import Apake.Proofs.Group.Residue

/-!
# A group of prime order as a cyclic group

`PrimeGroup.Laws` lets multiples compose, which is enough to take a blinding away.  That a blinding
hides its element takes the whole group: every element other than the identity generates it, so that
each is exactly one multiple of any other.  `PrimeGroup.Cyclic` says that the elements in use are
those of a cyclic group of prime order.
-/

namespace Apake.PrimeGroup

variable {g : PrimeGroup} {G : Type} [AddCommGroup G] {element : G → g.Element}

/-- A function that names elements after those of a group whose order is the stated prime, so that
multiples by numbers below the order are multiples there and every seed leads to a named element. -/
structure Names (g : PrimeGroup) {G : Type} [AddCommGroup G] (element : G → g.Element) : Prop where
  prime : g.order.Prime
  card : Nat.card G = g.order
  injective : Function.Injective element
  zero : element 0 = g.identity
  scale {k : Nat} (x : G) : k < g.order → g.scale k (element x) = element (k • x)
  ofSeed (seed : Bytes) : ∃ x, element x = g.ofSeed seed

/-- The elements in use form a cyclic group of prime order. -/
def Cyclic (g : PrimeGroup) : Prop :=
  ∃ (G : Type) (_ : AddCommGroup G) (element : G → g.Element), g.Names element

namespace Names

variable (names : g.Names element)

include names

/-- The multiple of a named element by a scalar. -/
theorem multiply_eq {k : Nat} (hk : g.IsScalar k) (x : G) :
    g.multiply k (element x) = element (k • x) := by
  have hreduced : ((k : Int) % g.order).toNat = k := by
    rw [← Int.natCast_mod, Int.toNat_natCast, Nat.mod_eq_of_lt hk.2]
  rw [multiply, hreduced]
  exact names.scale x hk.2

/-- Data are hashed to the name of an element other than zero. -/
theorem exists_of_hash {data tag : Bytes} {e : g.Element} (h : g.hash data tag = .ok e) :
    ∃ x, x ≠ 0 ∧ element x = e := by
  obtain ⟨⟨seed, rfl⟩, hid⟩ := exists_seed_of_hash h
  obtain ⟨x, hx⟩ := names.ofSeed seed
  refine ⟨x, ?_, hx⟩
  rintro rfl
  rw [← hx, names.zero] at hid
  simp [isIdentity] at hid

/-- Every element other than zero has the whole group for its multiples. -/
theorem addOrderOf_eq {x : G} (hx : x ≠ 0) : addOrderOf x = g.order := by
  have : Fact g.order.Prime := ⟨names.prime⟩
  exact addOrderOf_eq_prime (names.card ▸ card_nsmul_eq_zero') hx

/-- Each multiple of one element by a scalar is exactly one multiple of any other by a scalar. -/
theorem existsUnique_multiply {x y : G} (hx : x ≠ 0) (hy : y ≠ 0) {r : Nat} (hr : g.IsScalar r) :
    ∃! r', g.IsScalar r' ∧ g.multiply r' (element y) = g.multiply r (element x) := by
  have : Fact g.order.Prime := ⟨names.prime⟩
  have hmultiples : r • x ∈ AddSubmonoid.multiples y :=
    mem_multiples_of_prime_card names.card hy
  obtain ⟨n, hn⟩ := (AddSubmonoid.mem_multiples_iff _ _).mp hmultiples
  have hmod : (n % g.order) • y = r • x := by
    rw [← names.addOrderOf_eq hy, mod_addOrderOf_nsmul, hn]
  have hmoved : r • x ≠ 0 := by
    intro hzero
    have hdvd := addOrderOf_dvd_of_nsmul_eq_zero hzero
    rw [names.addOrderOf_eq hx] at hdvd
    exact Nat.not_le.mpr hr.2 (Nat.le_of_dvd hr.1 hdvd)
  have hscalar : g.IsScalar (n % g.order) := by
    refine ⟨Nat.pos_of_ne_zero fun hzero ↦ hmoved ?_, Nat.mod_lt _ names.prime.pos⟩
    rw [← hmod, hzero, zero_nsmul]
  refine ⟨n % g.order, ⟨hscalar, ?_⟩, ?_⟩
  · rw [names.multiply_eq hscalar, names.multiply_eq hr, hmod]
  · rintro r' ⟨hr', h⟩
    rw [names.multiply_eq hr', names.multiply_eq hr, ← hmod] at h
    have horder := names.addOrderOf_eq hy
    exact nsmul_injOn_Iio_addOrderOf (horder ▸ hr'.2) (horder ▸ hscalar.2) (names.injective h)

end Names

/-- What hides one hashed element hides any other, with exactly one scalar. -/
theorem Cyclic.existsUnique_multiply (cyclic : g.Cyclic) {data data' tag : Bytes} {a b : g.Element}
    (ha : g.hash data tag = .ok a) (hb : g.hash data' tag = .ok b) {r : Nat} (hr : g.IsScalar r) :
    ∃! r', g.IsScalar r' ∧ g.multiply r' b = g.multiply r a := by
  obtain ⟨G, _, element, names⟩ := cyclic
  obtain ⟨x, hx, rfl⟩ := names.exists_of_hash ha
  obtain ⟨y, hy, rfl⟩ := names.exists_of_hash hb
  exact names.existsUnique_multiply hx hy hr

end Apake.PrimeGroup

namespace Apake.Residue

/-- The power of the generator that a seed leads to; a residue that would be one or no power of the
generator gives way to the generator. -/
def cyclicOfSeed (seed : Bytes) : Nat :=
  let e := ofSeed seed
  if ∃ k, k < order ∧ 0 < k ∧ Modular.power generator k modulus = e then e else generator

/-- The powers of the generator, by their exponents. -/
def powerOf (x : ZMod order) : Nat := Modular.power generator x.val modulus

private theorem power_generator_inj {j k : Nat} (hj : j < order) (hk : k < order)
    (h : Modular.power generator j modulus = Modular.power generator k modulus) : j = k := by
  have cast_power (n : Nat) : ((Modular.power generator n modulus : Nat) : ZMod modulus) =
      (generator : ZMod modulus) ^ n := by
    rw [Modular.power_eq, ZMod.natCast_mod, Nat.cast_pow]
  obtain ⟨⟨hlt, hpower⟩, hne⟩ := isMember_generator
  have hone : ((generator : Nat) : ZMod modulus) ^ order = 1 := by
    rw [← cast_power, hpower, Nat.cast_one]
  have hmoved : ((generator : Nat) : ZMod modulus) ≠ 1 := by
    intro h1
    have hmod := (ZMod.natCast_eq_natCast_iff' generator 1 modulus).mp (by rw [h1, Nat.cast_one])
    rw [Nat.mod_eq_of_lt hlt, Nat.mod_eq_of_lt (by decide)] at hmod
    exact hne hmod
  have : Fact order.Prime := ⟨prime_order⟩
  have horder := orderOf_eq_prime hone hmoved
  apply pow_injOn_Iio_orderOf (horder ▸ hj) (horder ▸ hk)
  dsimp only
  rw [← cast_power, ← cast_power, h]

/-- The powers of powers of the generator. -/
theorem power_powerOf (x : ZMod order) (k : Nat) :
    Modular.power (powerOf x) k modulus = powerOf (k • x) := by
  have hval : (k • x).val = k * x.val % order := by
    rw [nsmul_eq_mul, ZMod.val_mul, ZMod.val_natCast, Nat.mod_mul_mod]
  rw [powerOf, powerOf, hval]
  exact isMember_generator.1.power_power k x.val

/-- Every seed leads to a power of the generator other than one. -/
theorem exists_powerOf_cyclicOfSeed (seed : Bytes) :
    ∃ x, x ≠ 0 ∧ powerOf x = cyclicOfSeed seed := by
  have hexponent {k : Nat} (hpos : 0 < k) (hlt : k < order) :
      ∃ x, x ≠ 0 ∧ powerOf x = Modular.power generator k modulus := by
    refine ⟨(k : ZMod order), ?_, ?_⟩
    · rw [Ne, ZMod.natCast_eq_zero_iff]
      exact fun hdvd ↦ Nat.not_le.mpr hlt (Nat.le_of_dvd hpos hdvd)
    · rw [powerOf, ZMod.val_natCast, Nat.mod_eq_of_lt hlt]
  unfold cyclicOfSeed
  dsimp only
  split
  · next h =>
    obtain ⟨k, hlt, hpos, hk⟩ := h
    rw [← hk]
    exact hexponent hpos hlt
  · have hself := isMember_generator.1.power_one
    rw [← hself]
    exact hexponent Nat.one_pos prime_order.one_lt

theorem isMember_powerOf {x : ZMod order} (hx : x ≠ 0) : IsMember (powerOf x) ∧ powerOf x ≠ 1 := by
  refine ⟨isMember_generator.1.power_mem _, fun h ↦ hx ?_⟩
  have : NeZero order := ⟨prime_order.ne_zero⟩
  apply ZMod.val_injective
  rw [ZMod.val_zero]
  apply power_generator_inj (ZMod.val_lt x) prime_order.pos
  rw [power_zero]
  exact h

theorem isMember_cyclicOfSeed (seed : Bytes) :
    IsMember (cyclicOfSeed seed) ∧ cyclicOfSeed seed ≠ 1 := by
  obtain ⟨x, hx, h⟩ := exists_powerOf_cyclicOfSeed seed
  rw [← h]
  exact isMember_powerOf hx

/-- The residues that seeds lead to are the powers of the generator, which form a cyclic group. -/
theorem cyclic_seededGroup : (seededGroup cyclicOfSeed).Cyclic := by
  have : NeZero order := ⟨prime_order.ne_zero⟩
  refine ⟨ZMod order, inferInstance, powerOf, ?_⟩
  exact {
    prime := prime_order
    card := Nat.card_zmod order
    injective := fun x y h ↦ ZMod.val_injective _ <|
      power_generator_inj (ZMod.val_lt x) (ZMod.val_lt y) h
    zero := by
      rw [powerOf, ZMod.val_zero]
      exact power_zero generator
    scale := fun {k} x _ ↦ power_powerOf x k
    ofSeed := fun seed ↦ by
      obtain ⟨x, -, hx⟩ := exists_powerOf_cyclicOfSeed seed
      rw [seededGroup_ofSeed]
      exact ⟨x, hx⟩ }

end Apake.Residue
