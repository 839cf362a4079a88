import Mathlib.FieldTheory.Finite.Basic
import Apake.Group.Prime
import Apake.Proofs.Random.Search

/-!
# Laws of a group of prime order

What the protocol relies on is collected in `PrimeGroup.Laws`: multiples by the numbers below a
prime order compose like these numbers, and the encoding of an element other than the identity is
decoded to that element.  From it follow the laws of `multiply`, which takes any integer, that every
scalar can be taken away again, and that drawn, derived and decoded values stay in range.
-/

namespace Apake.PrimeGroup

/-- The laws of a group of prime order on the elements that its operations yield. -/
structure Laws (g : PrimeGroup) (Member : g.Element → Prop) : Prop where
  prime : g.order.Prime
  base_mem : Member g.base
  base_ne : g.base ≠ g.identity
  ofSeed_mem (seed : Bytes) : Member (g.ofSeed seed)
  decode_mem {bs : Bytes} {e : g.Element} : g.decode bs = .ok e → Member e
  scale_mem {k : Nat} {e : g.Element} : k < g.order → Member e → Member (g.scale k e)
  scale_zero {e : g.Element} : Member e → g.scale 0 e = g.identity
  scale_one {e : g.Element} : Member e → g.scale 1 e = e
  scale_scale {j k : Nat} {e : g.Element} : j < g.order → k < g.order → Member e →
    g.scale j (g.scale k e) = g.scale (j * k % g.order) e
  encode_inj {a b : g.Element} : Member a → Member b → g.encode a = g.encode b → a = b
  length_encode {e : g.Element} : Member e → (g.encode e).length = g.elementLength
  decode_encode {e : g.Element} : Member e → e ≠ g.identity → g.decode (g.encode e) = .ok e
  elementLength_lt : g.elementLength < 65536
  scalarLength_lt : g.scalarLength < 65536

/-- The operations form a group of prime order. -/
def Lawful (g : PrimeGroup) : Prop := ∃ Member, g.Laws Member

/-- A group that has a scalar and in which everything is written in a fixed number of bytes, few
enough to be counted in two. -/
structure Sized (g : PrimeGroup) : Prop where
  order_pos : 0 < g.order
  length_encode (e : g.Element) : (g.encode e).length = g.elementLength
  elementLength_lt : g.elementLength < 65536
  scalarLength_lt : g.scalarLength < 65536

/-- A scalar other than zero. -/
def IsScalar (g : PrimeGroup) (k : Nat) : Prop := 0 < k ∧ k < g.order

variable {g : PrimeGroup}

/-- Every number below the order fits the bytes of a scalar. -/
theorem order_lt_pow (g : PrimeGroup) : g.order < 256 ^ g.scalarLength := by
  have hbits : g.order < 2 ^ (g.order.log2 + 1) := Nat.lt_log2_self
  have hbytes : g.order.log2 + 1 ≤ 8 * g.scalarLength := by
    unfold scalarLength
    omega
  calc g.order < 2 ^ (g.order.log2 + 1) := hbits
    _ ≤ 2 ^ (8 * g.scalarLength) := Nat.pow_le_pow_right (by decide) hbytes
    _ = 256 ^ g.scalarLength := by rw [Nat.pow_mul]

theorem IsScalar.lt_pow {k : Nat} (hk : g.IsScalar k) : k < 256 ^ g.scalarLength :=
  hk.2.trans g.order_lt_pow

/-- A scalar is written in the bytes that the order needs. -/
theorem encodeScalar_of_isScalar (hlength : g.scalarLength < 65536) {k : Nat} (hk : g.IsScalar k) :
    g.encodeScalar k = .ok (Bytes.ofNat g.scalarLength k) := by
  have hwidth : (g.scalarLength : Int) < Framing.widthLimit := by
    unfold Framing.widthLimit
    omega
  exact (Framing.number_ofNat_eq_ok_iff hwidth).mpr ⟨hk.lt_pow, rfl⟩

/-- A scalar is read back from its bytes. -/
theorem decodeScalar_ofNat {k : Nat} (hk : g.IsScalar k) (name : String) :
    g.decodeScalar (Bytes.ofNat g.scalarLength k) name = .ok k := by
  have hzero : k ≠ 0 := Nat.pos_iff_ne_zero.mp hk.1
  have hsmall : ¬ g.order ≤ k := Nat.not_le.mpr hk.2
  unfold decodeScalar
  simp only [Bytes.length_ofNat, Bytes.toNat_ofNat hk.lt_pow]
  simp [hzero, hsmall]

/-- Bytes that are read as a scalar are a scalar's. -/
theorem decodeScalar_eq_ok_iff {bs : Bytes} {name : String} {k : Nat} :
    g.decodeScalar bs name = .ok k ↔
      bs.length = g.scalarLength ∧ Bytes.toNat bs = k ∧ g.IsScalar k := by
  unfold decodeScalar IsScalar
  by_cases hlength : bs.length = g.scalarLength
  · by_cases hrange : Bytes.toNat bs = 0 ∨ g.order ≤ Bytes.toNat bs
    · have hnot : ¬ (Bytes.toNat bs = k ∧ 0 < k ∧ k < g.order) := by
        rintro ⟨rfl, hpos, hlt⟩
        omega
      simp [hlength, hrange, hnot]
    · have hin : 0 < Bytes.toNat bs ∧ Bytes.toNat bs < g.order := by omega
      simp only [hlength, ne_eq, not_true_eq_false, if_false, hrange, Except.ok.injEq, true_and]
      constructor
      · rintro rfl
        exact ⟨rfl, hin⟩
      · exact fun h ↦ h.1
  · simp [hlength]

/-- Scalars that are derived from a seed are in range. -/
theorem isScalar_of_deriveScalar {h : HashAlgorithm} {seed info : Bytes} {k : Nat}
    (hpos : 0 < g.order) (hk : g.deriveScalar h seed info = .ok k) : g.IsScalar k := by
  have hfrom (key : Bytes) (attempts counter : Nat)
      (hd : g.deriveFrom h key info attempts counter = .ok k) : g.IsScalar k := by
    induction attempts generalizing counter with
    | zero => cases hd
    | succ attempts ih =>
      rw [deriveFrom] at hd
      split at hd
      · exact ih _ hd
      · next hne =>
        cases hd
        exact ⟨Nat.pos_of_ne_zero hne, Nat.mod_lt _ hpos⟩
  exact hfrom _ _ _ hk

/-- Whether numbers are drawn until one is below the order. -/
def Searches (g : PrimeGroup) : Prop := ∃ n, g.sampling = .reject n

/-- Samples lie below the order. -/
theorem sample_serves (hpos : 0 < g.order) {searches : Prop} (hsearches : g.Searches → searches) :
    g.sample.Serves (.anySource searches) (· < g.order) := by
  have hnumber (n : Nat) : (Draw.number n).Serves (.anySource searches) fun _ ↦ True :=
    (Draw.Serves.bytes n).bind fun _ _ ↦ .pure trivial
  unfold sample
  split
  · exact (hnumber _).bind fun k _ ↦ .pure (Nat.mod_lt k hpos)
  · next n hsampling =>
    have hsearch : searches := hsearches ⟨n, hsampling⟩
    exact ((hnumber n).first (.inr ⟨rfl, hsearch⟩)).mono fun k hk ↦ of_decide_eq_true hk.2

/-- Drawn scalars are in range. -/
theorem randomScalar_serves (hpos : 0 < g.order) {searches : Prop}
    (hsearches : g.Searches → searches) :
    g.randomScalar.Serves (.anySource searches) g.IsScalar := by
  have hfrom (attempts : Nat) :
      (g.randomFrom attempts).Serves (.anySource searches) g.IsScalar := by
    induction attempts with
    | zero => exact .throw (.inl rfl)
    | succ attempts ih =>
      refine (sample_serves hpos hsearches).bind fun k hk ↦ ?_
      split
      · exact ih
      · next hne => exact .pure ⟨Nat.pos_of_ne_zero hne, hk⟩
  exact hfrom 64

/-- Where sampling is by rejection, a scalar that the source answers with at once is the one
drawn. -/
theorem runOn_randomScalar_reject {n k : Nat} (hsampling : g.sampling = .reject n)
    (hk : g.IsScalar k) (hfits : k < 256 ^ n) {e : Entropy}
    (hreply : e.source e.asked n = .bytes (Bytes.ofNat n k)) :
    g.randomScalar.runOn e = (.ok k, { e with asked := n :: e.asked }) := by
  have hnumber : (Draw.number n).runOn e = (.ok k, { e with asked := n :: e.asked }) := by
    rw [Draw.number, Draw.runOn_bind, Draw.runOn_bytes, hreply, Draw.accept,
      if_pos (Bytes.length_ofNat n k)]
    dsimp only
    rw [Bytes.toNat_ofNat hfits]
    rfl
  have hsample : g.sample.runOn e = (.ok k, { e with asked := n :: e.asked }) := by
    unfold sample
    rw [hsampling]
    exact Draw.runOn_first_of_pass hnumber (decide_eq_true hk.2)
  have hne : k ≠ 0 := Nat.pos_iff_ne_zero.mp hk.1
  show (g.randomFrom (63 + 1)).runOn e = _
  rw [randomFrom, Draw.runOn_bind, hsample]
  dsimp only
  rw [if_neg hne]
  rfl

/-- An element is decoded exactly if its bytes have the right length, stand for it, and it does not
have the identity's encoding. -/
theorem decodeElement_eq_ok_iff {bs : Bytes} {name : String} {e : g.Element} :
    g.decodeElement bs name = .ok e ↔
      bs.length = g.elementLength ∧ g.decode bs = .ok e ∧ g.isIdentity e = false := by
  unfold decodeElement
  split
  · next h => simp [h]
  · next h =>
    have hlength : bs.length = g.elementLength := by simpa using h
    cases hdecode : g.decode bs with
    | error defect => simp
    | ok a =>
      simp only [hlength, true_and, Except.ok.injEq]
      split
      · next hid =>
        have hnot : ¬ (a = e ∧ g.isIdentity e = false) := by
          rintro ⟨rfl, hne⟩
          rw [hid] at hne
          cases hne
        simp [hnot]
      · next hid =>
        have hne : g.isIdentity a = false := by simpa using hid
        constructor
        · intro h
          cases h
          exact ⟨rfl, hne⟩
        · rintro ⟨rfl, -⟩
          rfl

/-- What data are hashed to is made of a seed and does not have the identity's encoding. -/
theorem exists_seed_of_hash {data tag : Bytes} {e : g.Element} (h : g.hash data tag = .ok e) :
    (∃ seed, e = g.ofSeed seed) ∧ g.isIdentity e = false := by
  have hfrom (attempts counter : Nat) (h : g.hashFrom data tag attempts counter = .ok e) :
      (∃ seed, e = g.ofSeed seed) ∧ g.isIdentity e = false := by
    induction attempts generalizing counter with
    | zero => cases h
    | succ attempts ih =>
      rw [hashFrom] at h
      obtain ⟨seed, -, h⟩ := Except.bind_eq_ok_iff.mp h
      dsimp only at h
      split at h
      · exact ih _ h
      · next hid =>
        cases h
        exact ⟨⟨seed, rfl⟩, by simpa using hid⟩
  exact hfrom _ _ h

/-- Data are hashed to an element under a tag that fits behind its length, where no seed leads to
the identity. -/
theorem exists_hash (hseed : ∀ seed, g.isIdentity (g.ofSeed seed) = false) (data : Bytes)
    {tag : Bytes} (htag : tag.length < 256 ^ 2) : ∃ e, g.hash data tag = .ok e := by
  obtain ⟨seed, hfirst⟩ : ∃ seed, hashSeed data tag 0 = .ok seed :=
    ⟨_, Except.bind_of_ok (Framing.vector_eq_ok_iff.mpr ⟨htag, rfl⟩) rfl⟩
  refine ⟨g.ofSeed seed, ?_⟩
  show g.hashFrom data tag (255 + 1) 0 = _
  unfold hashFrom
  apply Except.bind_of_ok hfirst
  dsimp only
  rw [if_neg (by simp [hseed])]

namespace Laws

variable {Member : g.Element → Prop} (laws : g.Laws Member)

include laws

theorem order_pos : 0 < g.order := laws.prime.pos

theorem identity_mem : Member g.identity := by
  rw [← laws.scale_zero laws.base_mem]
  exact laws.scale_mem laws.order_pos laws.base_mem

/-- The identity is the one element that has its encoding. -/
theorem isIdentity_eq_false_iff {e : g.Element} (he : Member e) :
    g.isIdentity e = false ↔ e ≠ g.identity := by
  unfold isIdentity
  rw [decide_eq_false_iff_not]
  exact ⟨fun h heq ↦ h (heq ▸ rfl), fun h heq ↦ h (laws.encode_inj he laws.identity_mem heq)⟩

private theorem residue_lt (k : Int) : (k % g.order).toNat < g.order := by
  have hpos := laws.order_pos
  have hlt := Int.emod_lt_of_pos k (show (0 : Int) < g.order by omega)
  have hnonneg := Int.emod_nonneg k (show (g.order : Int) ≠ 0 by omega)
  omega

theorem multiply_mem (k : Int) {e : g.Element} (he : Member e) : Member (g.multiply k e) :=
  laws.scale_mem (laws.residue_lt k) he

/-- Multiples of multiples are multiples by the product. -/
theorem multiply_multiply (j k : Int) {e : g.Element} (he : Member e) :
    g.multiply j (g.multiply k e) = g.multiply (j * k) e := by
  have hne : (g.order : Int) ≠ 0 := by
    have := laws.order_pos
    omega
  have hproduct : (j % g.order).toNat * (k % g.order).toNat % g.order =
      (j * k % g.order).toNat := by
    apply Int.ofNat_inj.mp
    rw [Int.natCast_mod, Int.natCast_mul, Int.toNat_of_nonneg (Int.emod_nonneg j hne),
      Int.toNat_of_nonneg (Int.emod_nonneg k hne), ← Int.mul_emod,
      Int.toNat_of_nonneg (Int.emod_nonneg _ hne)]
  unfold multiply
  rw [laws.scale_scale (laws.residue_lt j) (laws.residue_lt k) he, hproduct]

theorem multiply_comm (j k : Int) {e : g.Element} (he : Member e) :
    g.multiply j (g.multiply k e) = g.multiply k (g.multiply j e) := by
  rw [laws.multiply_multiply j k he, laws.multiply_multiply k j he, Int.mul_comm]

/-- A multiple by a number that is one modulo the order is the element itself. -/
theorem multiply_of_emod_eq_one {k : Int} (hk : k % g.order = 1) {e : g.Element} (he : Member e) :
    g.multiply k e = e := by
  rw [multiply, hk]
  exact laws.scale_one he

theorem multiply_identity (k : Int) : g.multiply k g.identity = g.identity := by
  have hzero : g.identity = g.multiply 0 g.base := (laws.scale_zero laws.base_mem).symm
  rw [hzero, laws.multiply_multiply k 0 laws.base_mem, Int.mul_zero]

/-- Every number that is not zero modulo the order is undone by its inverse. -/
theorem exists_inverse {k : Int} (hk : k % g.order ≠ 0) :
    ∃ r, g.invert k = .ok r ∧ r * k % g.order = 1 := by
  have hne : (g.order : Int) ≠ 0 := by
    have := laws.order_pos
    omega
  have hnonneg := Int.emod_nonneg k hne
  have hlt := laws.residue_lt k
  obtain ⟨n, hn⟩ : ∃ n : Nat, k % g.order = n := ⟨_, (Int.toNat_of_nonneg hnonneg).symm⟩
  rw [hn, Int.toNat_natCast] at hlt
  have hn0 : n ≠ 0 := by
    rintro rfl
    exact hk hn
  have hcoprime : Nat.Coprime n g.order :=
    (Nat.coprime_of_lt_prime hn0 hlt laws.prime).symm
  have hinverse : Modular.inverse n g.order * n % g.order = 1 := by
    have hfermat := Nat.ModEq.pow_totient hcoprime
    rw [Nat.totient_prime laws.prime] at hfermat
    have hsucc : g.order - 1 = g.order - 2 + 1 := by
      have := laws.prime.two_le
      omega
    rw [Modular.inverse, Modular.power_eq, Nat.mod_mul_mod, ← Nat.pow_succ, Nat.succ_eq_add_one,
      ← hsucc, hfermat, Nat.mod_eq_of_lt laws.prime.one_lt]
  refine ⟨Modular.inverse n g.order, ?_, ?_⟩
  · rw [invert, hn, Int.toNat_natCast, if_neg hn0]
  · rw [Int.mul_emod, hn, ← Int.natCast_mod, ← Int.natCast_mul, ← Int.natCast_mod,
      Nat.mod_mul_mod, hinverse]
    rfl

/-- What was multiplied by a scalar comes back when its inverse is applied. -/
theorem invert_multiply {k : Int} (hk : k % g.order ≠ 0) :
    ∃ r, g.invert k = .ok r ∧ ∀ e, Member e → g.multiply r (g.multiply k e) = e := by
  obtain ⟨r, hr, hone⟩ := laws.exists_inverse hk
  refine ⟨r, hr, fun e he ↦ ?_⟩
  rw [laws.multiply_multiply _ _ he, laws.multiply_of_emod_eq_one hone he]

/-- Multiples by different elements differ. -/
theorem multiply_inj {k : Int} (hk : k % g.order ≠ 0) {a b : g.Element} (ha : Member a)
    (hb : Member b) (h : g.multiply k a = g.multiply k b) : a = b := by
  obtain ⟨r, -, hback⟩ := laws.invert_multiply hk
  rw [← hback a ha, h, hback b hb]

/-- No multiple by a scalar is the identity, unless the element is. -/
theorem multiply_ne_identity {k : Int} (hk : k % g.order ≠ 0) {e : g.Element} (he : Member e)
    (hne : e ≠ g.identity) : g.multiply k e ≠ g.identity := by
  intro h
  apply hne
  apply laws.multiply_inj hk he laws.identity_mem
  rw [h, laws.multiply_identity]

omit laws in
/-- Scalars are not zero modulo the order. -/
theorem emod_ne_zero {k : Nat} (hk : g.IsScalar k) : (k : Int) % g.order ≠ 0 := by
  have hmod := Nat.mod_eq_of_lt hk.2
  have hpos := hk.1
  omega

/-- The multiple of the generator by a scalar is a member other than the identity. -/
theorem multiplyBase_mem {k : Nat} (hk : g.IsScalar k) :
    Member (g.multiplyBase k) ∧ g.multiplyBase k ≠ g.identity := by
  constructor
  · exact laws.multiply_mem k laws.base_mem
  · exact laws.multiply_ne_identity (emod_ne_zero hk) laws.base_mem laws.base_ne

/-- Elements other than the identity are read back from their encoding. -/
theorem decodeElement_encode {e : g.Element} (he : Member e) (hne : e ≠ g.identity)
    (name : String) : g.decodeElement (g.encode e) name = .ok e :=
  decodeElement_eq_ok_iff.mpr ⟨laws.length_encode he, laws.decode_encode he hne,
    (laws.isIdentity_eq_false_iff he).mpr hne⟩

/-- What data are hashed to belongs to the group and is not the identity. -/
theorem mem_of_hash {data tag : Bytes} {e : g.Element} (h : g.hash data tag = .ok e) :
    Member e ∧ e ≠ g.identity := by
  obtain ⟨⟨seed, rfl⟩, hid⟩ := exists_seed_of_hash h
  have he := laws.ofSeed_mem seed
  exact ⟨he, (laws.isIdentity_eq_false_iff he).mp hid⟩

/-- The bytes of a scalar. -/
theorem encodeScalar_eq {k : Nat} (hk : g.IsScalar k) :
    g.encodeScalar k = .ok (Bytes.ofNat g.scalarLength k) :=
  encodeScalar_of_isScalar laws.scalarLength_lt hk

end Laws

end Apake.PrimeGroup
