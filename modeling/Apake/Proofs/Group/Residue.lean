import Mathlib.Tactic.NormNum.Prime
import Apake.Group.Montgomery
import Apake.Proofs.Group.Certificate
import Apake.Proofs.Group.KeyPair

/-!
# The group of residues is lawful

The order of the group is prime by a chain of certificates, and the residues whose power by the
order is one satisfy the laws of a group of prime order.  That a seed leads into the group would
follow from a prime modulus; `Residue.closedGroup` tests it instead.
-/

namespace Apake.Residue

-- Powers by the order are as many steps deep as the order has bits.
set_option maxRecDepth 2000

/-! ### The order is prime -/

private theorem prime_2306929643 : Nat.Prime 2306929643 :=
  Modular.prime_of_certifies 2 [2, 29, 6247, 6367] (by norm_num) (by decide)

private theorem prime_5649750452089 : Nat.Prime 5649750452089 :=
  Modular.prime_of_certifies 11 [2, 2, 2, 3, 3, 3, 19, 101, 617, 22091] (by norm_num)
    (by decide)

private theorem prime_236819180415481 : Nat.Prime 236819180415481 :=
  Modular.prime_of_certifies 7 [2, 2, 2, 3, 5, 13, 17, 43, 3793, 54751] (by norm_num)
    (by decide)

private theorem prime_8929202679541021 : Nat.Prime 8929202679541021 :=
  Modular.prime_of_certifies 10 [2, 2, 3, 5, 137, 185359, 5860399] (by norm_num)
    (by decide)

private theorem prime_618144619606133964312347609431 :
    Nat.Prime 618144619606133964312347609431 :=
  Modular.prime_of_certifies 6 ([2, 3, 5, 829, 1907] ++ [2306929643, 5649750452089])
    (List.forall_mem_append.mpr
      ⟨by norm_num, by simp [prime_2306929643, prime_5649750452089]⟩)
    (by decide)

/-- The order of the group is prime. -/
theorem prime_order : order.Prime :=
  Modular.prime_of_certifies 2
    ([2, 2, 3, 19, 41, 1249] ++
      [236819180415481, 8929202679541021, 618144619606133964312347609431])
    (List.forall_mem_append.mpr
      ⟨by norm_num, by simp [prime_236819180415481, prime_8929202679541021,
        prime_618144619606133964312347609431]⟩)
    (by decide)

/-! ### Members and their powers -/

/-- The residues of the group: their power by the order is one. -/
def IsMember (e : Nat) : Prop := e < modulus ∧ Modular.power e order modulus = 1

theorem two_lt_order : 2 < order := by decide

private theorem one_lt_modulus : 1 < modulus := by decide

private theorem modulus_lt : modulus < 256 ^ 256 := by decide

private theorem power_zero_left {n : Nat} (hn : 0 < n) : Modular.power 0 n modulus = 0 := by
  rw [Modular.power_eq, Nat.zero_pow hn, Nat.zero_mod]

/-- No member is zero. -/
theorem IsMember.ne_zero {e : Nat} (he : IsMember e) : e ≠ 0 := by
  rintro rfl
  have h := he.2
  rw [power_zero_left prime_order.pos] at h
  cases h

/-- A member to the power zero is one. -/
theorem power_zero (e : Nat) : Modular.power e 0 modulus = 1 := by
  rw [Modular.power_eq, Nat.pow_zero, Nat.mod_eq_of_lt one_lt_modulus]

/-- A member to the power one is itself. -/
theorem IsMember.power_one {e : Nat} (he : IsMember e) : Modular.power e 1 modulus = e := by
  rw [Modular.power_eq, Nat.pow_one, Nat.mod_eq_of_lt he.1]

private theorem IsMember.pow_order {e : Nat} (he : IsMember e) : e ^ order % modulus = 1 := by
  rw [← Modular.power_eq]
  exact he.2

/-- Powers of powers of a member are powers by the product modulo the order. -/
theorem IsMember.power_power {e : Nat} (he : IsMember e) (j k : Nat) :
    Modular.power (Modular.power e k modulus) j modulus =
      Modular.power e (j * k % order) modulus := by
  have hcycle : (e ^ order) ^ (j * k / order) % modulus = 1 := by
    rw [Nat.pow_mod, he.pow_order, Nat.one_pow, Nat.mod_eq_of_lt one_lt_modulus]
  rw [Modular.power_eq, Modular.power_eq, Modular.power_eq]
  calc (e ^ k % modulus) ^ j % modulus
      = e ^ (j * k) % modulus := by rw [← Nat.pow_mod, ← Nat.pow_mul, Nat.mul_comm]
    _ = (e ^ order) ^ (j * k / order) * e ^ (j * k % order) % modulus := by
        rw [← Nat.pow_mul, ← Nat.pow_add, Nat.div_add_mod]
    _ = e ^ (j * k % order) % modulus := by
        rw [Nat.mul_mod, hcycle, Nat.one_mul, Nat.mod_mod]

/-- Powers of a member are members. -/
theorem IsMember.power_mem {e : Nat} (he : IsMember e) (k : Nat) :
    IsMember (Modular.power e k modulus) := by
  refine ⟨?_, ?_⟩
  · rw [Modular.power_eq]
    exact Nat.mod_lt _ (Nat.zero_lt_of_lt one_lt_modulus)
  · rw [he.power_power, Nat.mul_mod_right, power_zero]

/-- The generator is a member other than one. -/
theorem isMember_generator : IsMember generator ∧ generator ≠ 1 :=
  ⟨⟨by decide, by decide⟩, by decide⟩

/-- Members are read back from their bytes. -/
theorem decode_ofNat {e : Nat} (he : IsMember e) : decode (Bytes.ofNat 256 e) = .ok e := by
  have hbytes : Bytes.toNat (Bytes.ofNat 256 e) = e :=
    Bytes.toNat_ofNat (he.1.trans modulus_lt)
  have hfield : ¬ (e = 0 ∨ modulus ≤ e) := by
    rintro (h | h)
    · exact he.ne_zero h
    · exact Nat.not_le.mpr he.1 h
  unfold decode
  rw [hbytes]
  dsimp only
  rw [if_neg hfield, if_neg (not_not_intro he.2)]

/-- Bytes that are read stand for a member. -/
theorem isMember_of_decode {bs : Bytes} {e : Nat} (h : decode bs = .ok e) : IsMember e := by
  unfold decode at h
  dsimp only at h
  split at h
  · cases h
  · next hfield =>
    split at h
    · cases h
    · next hpower =>
      cases h
      exact ⟨Nat.not_le.mp fun h ↦ hfield (.inr h), not_not.mp hpower⟩

/-! ### The group with its seeds tested -/

/-- The member that a seed leads to; a residue that would be one or no member gives way to the
generator. -/
def closedOfSeed (seed : Bytes) : Nat :=
  let e := ofSeed seed
  if e ≠ 1 ∧ Modular.power e order modulus = 1 then e else generator

/-- The group of residues in which every seed leads to a member. -/
def closedGroup : PrimeGroup := { group with ofSeed := closedOfSeed }

/-- Every seed leads to a member other than one. -/
theorem isMember_closedOfSeed (seed : Bytes) :
    IsMember (closedOfSeed seed) ∧ closedOfSeed seed ≠ 1 := by
  unfold closedOfSeed
  dsimp only
  split
  · next h =>
    refine ⟨⟨?_, h.2⟩, h.1⟩
    rw [ofSeed, Modular.power_eq]
    exact Nat.mod_lt _ (Nat.zero_lt_of_lt one_lt_modulus)
  · exact isMember_generator

/-- The group of residues with another way to make an element of a seed. -/
def seededGroup (seeds : Bytes → Nat) : PrimeGroup := { group with ofSeed := seeds }

section Seeded

variable {seeds : Bytes → Nat}

theorem seededGroup_ofSeed : (seededGroup seeds).ofSeed = seeds := by
  unfold seededGroup
  with_reducible rfl

private theorem seededGroup_order : (seededGroup seeds).order = order := by
  unfold seededGroup group
  with_reducible rfl

/-- The numbers below the order are scalars, but for zero. -/
theorem isScalar_of_lt {k : Nat} (hpos : 0 < k) (hlt : k < order) :
    (seededGroup seeds).IsScalar k := by
  refine ⟨hpos, ?_⟩
  rw [seededGroup_order]
  exact hlt

/-- Scalars take 28 bytes. -/
theorem scalarLength_seededGroup : (seededGroup seeds).scalarLength = 28 := by
  unfold PrimeGroup.scalarLength
  rw [seededGroup_order]
  decide

private theorem seededGroup_elementLength : (seededGroup seeds).elementLength = 256 := by
  unfold seededGroup group
  with_reducible rfl

private theorem seededGroup_encode : (seededGroup seeds).encode = Bytes.ofNat 256 := by
  unfold seededGroup group
  with_reducible rfl

/-- Residues are written in 256 bytes. -/
theorem sized_seededGroup : (seededGroup seeds).Sized where
  order_pos := by
    rw [seededGroup_order]
    exact prime_order.pos
  length_encode e := by
    rw [seededGroup_encode, seededGroup_elementLength]
    exact Bytes.length_ofNat 256 e
  elementLength_lt := by
    rw [seededGroup_elementLength]
    decide
  scalarLength_lt := by
    rw [scalarLength_seededGroup]
    decide

private theorem seededGroup_decode : (seededGroup seeds).decode = decode := by
  unfold seededGroup group
  with_reducible rfl

/-- The group of residues satisfies the laws of a group of prime order if every seed leads to a
member. -/
theorem seededGroup_laws (hseeds : ∀ seed, IsMember (seeds seed)) :
    (seededGroup seeds).Laws IsMember where
  prime := prime_order
  base_mem := isMember_generator.1
  base_ne := isMember_generator.2
  ofSeed_mem seed := by
    rw [seededGroup_ofSeed]
    exact hseeds seed
  decode_mem := isMember_of_decode
  scale_mem _ he := he.power_mem _
  scale_zero _ := power_zero _
  scale_one he := he.power_one
  scale_scale _ _ he := he.power_power _ _
  encode_inj {a b} ha hb h := by
    rw [seededGroup_encode] at h
    rw [← Bytes.toNat_ofNat (ha.1.trans modulus_lt), h,
      Bytes.toNat_ofNat (hb.1.trans modulus_lt)]
  length_encode {e} _ := sized_seededGroup.length_encode e
  decode_encode he _ := by
    rw [seededGroup_encode, seededGroup_decode]
    exact decode_ofNat he
  elementLength_lt := sized_seededGroup.elementLength_lt
  scalarLength_lt := sized_seededGroup.scalarLength_lt

/-- Whatever is hashed has an element, under a tag that fits behind its length, if every seed leads
to a member other than one. -/
theorem exists_seededGroup_hash (hseeds : ∀ seed, IsMember (seeds seed) ∧ seeds seed ≠ 1)
    (data : Bytes) {tag : Bytes} (htag : tag.length < 256 ^ 2) :
    ∃ e, (seededGroup seeds).hash data tag = .ok e := by
  refine PrimeGroup.exists_hash (fun seed ↦ ?_) data htag
  rw [seededGroup_ofSeed]
  obtain ⟨hmem, hne⟩ := hseeds seed
  have laws := seededGroup_laws fun seed ↦ (hseeds seed).1
  exact (laws.isIdentity_eq_false_iff hmem).mpr hne

end Seeded

theorem length_closedGroup_encode (e : closedGroup.Element) :
    (closedGroup.encode e).length = closedGroup.elementLength := sized_seededGroup.length_encode e

/-- Residues are written in 256 bytes, whatever is made of seeds. -/
theorem sized_group : group.Sized := sized_seededGroup

/-- The group of residues with its seeds tested satisfies the laws of a group of prime order. -/
theorem closedGroup_laws : closedGroup.Laws IsMember :=
  seededGroup_laws fun seed ↦ (isMember_closedOfSeed seed).1

/-- Whatever is hashed has an element under a tag that fits behind its length. -/
theorem exists_closedGroup_hash (data : Bytes) {tag : Bytes} (htag : tag.length < 256 ^ 2) :
    ∃ e, closedGroup.hash data tag = .ok e :=
  exists_seededGroup_hash isMember_closedOfSeed data htag

private theorem pow_pred_mod {e q p k : Nat} (hq : 0 < q) (hk : 0 < k) (he : e ^ q % p = 1)
    (h : e ^ k % p = e % p) : e ^ (k - 1) % p = 1 := by
  have hp : 1 % p = 1 := by rw [← he, Nat.mod_mod]
  calc e ^ (k - 1) % p
      = e ^ (k - 1) % p * (e ^ q % p) % p := by rw [he, Nat.mul_one, Nat.mod_mod]
    _ = e ^ (k - 1) * e ^ q % p := by rw [← Nat.mul_mod]
    _ = e ^ k * e ^ (q - 1) % p := by
        rw [← Nat.pow_add, ← Nat.pow_add]
        congr 2
        omega
    _ = e * e ^ (q - 1) % p := by rw [Nat.mul_mod, h, ← Nat.mul_mod]
    _ = e ^ q % p := by
        rw [← Nat.pow_succ', Nat.succ_eq_add_one, Nat.sub_add_cancel hq]
    _ = 1 := he

private theorem closedGroup_multiply {k : Nat} (hk : k < closedGroup.order) (e : Nat) :
    closedGroup.multiply k e = Modular.power e k modulus := by
  unfold PrimeGroup.multiply
  rw [← Int.natCast_mod, Int.toNat_natCast, Nat.mod_eq_of_lt hk]
  unfold closedGroup group
  with_reducible rfl

/-- A scalar other than one moves every member other than one. -/
theorem multiply_ne_self {e : Nat} (he : IsMember e) (hne : e ≠ 1) {k : Nat}
    (hk : closedGroup.IsScalar k) (hk1 : k ≠ 1) : closedGroup.multiply k e ≠ e := by
  intro hfixed
  obtain ⟨hpos, hlt⟩ := hk
  have hpred : closedGroup.IsScalar (k - 1) := ⟨by omega, by omega⟩
  rw [closedGroup_multiply hlt] at hfixed
  apply closedGroup_laws.multiply_ne_identity (PrimeGroup.Laws.emod_ne_zero hpred) he hne
  rw [closedGroup_multiply hpred.2, Modular.power_eq]
  apply pow_pred_mod prime_order.pos hpos he.pow_order
  rw [← Modular.power_eq, hfixed, Nat.mod_eq_of_lt he.1]

end Apake.Residue

namespace Apake

/-- The standard groups with the residues closed. -/
@[reducible] def Groups.closed : Groups where
  prime
    | .ed25519 => Edwards.group
    | .i2048 => Residue.closedGroup
  x25519 := Montgomery.multiply

/-- The standard groups with another way to make a residue of a seed. -/
@[reducible] def Groups.seeded (seeds : Bytes → Nat) : Groups where
  prime
    | .ed25519 => Edwards.group
    | .i2048 => Residue.seededGroup seeds
  x25519 := Montgomery.multiply

/-- The suite over residues is lawful if every seed leads to a member. -/
theorem Suite.lawful_seeded {seeds : Bytes → Nat} (hseeds : ∀ seed, Residue.IsMember (seeds seed))
    (f : Stretching) : @Suite.Lawful (Groups.seeded seeds) ⟨.i2048Sha256, f⟩ :=
  letI := Groups.seeded seeds
  { group := ⟨Residue.IsMember, Residue.seededGroup_laws hseeds⟩
    exchange := ⟨Residue.IsMember, Residue.seededGroup_laws hseeds⟩ }

/-- The suite over residues with its seeds tested is lawful. -/
theorem Suite.lawful_i2048 (f : Stretching) :
    @Suite.Lawful Groups.closed ⟨.i2048Sha256, f⟩ :=
  lawful_seeded (fun seed ↦ (Residue.isMember_closedOfSeed seed).1) f

end Apake
