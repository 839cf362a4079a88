import Apake.Blinding
import Apake.Proofs.Group.Sizes

/-!
# One encoding for each element

What the decoder of a standard group accepts is the encoding of the element that it stands for.  On
the Edwards curve three kinds of strings need a look: a `y` that is not reduced, the coordinate zero
with the bit of an odd one, and what encodes the identity.  The last is refused, and the points that
the others stand for are outside the subgroup or off the curve, which takes a computation for each.
-/

namespace Apake.Edwards

-- Powers modulo the size of the field are as many steps deep as it has bits.
set_option maxRecDepth 2000

/-! ### The size of the field is prime -/

private theorem prime_2773320623 : Nat.Prime 2773320623 :=
  Modular.prime_of_certifies 5 [2, 2437, 569003] (by norm_num) (by decide)

private theorem prime_72106336199 : Nat.Prime 72106336199 :=
  Modular.prime_of_certifies 7 ([2, 13] ++ [2773320623])
    (List.forall_mem_append.mpr ⟨by norm_num, by simp [prime_2773320623]⟩) (by decide)

private theorem prime_1919519569386763 : Nat.Prime 1919519569386763 :=
  Modular.prime_of_certifies 2 [2, 3, 7, 19, 47, 47, 127, 8574133] (by norm_num) (by decide)

private theorem prime_31757755568855353 : Nat.Prime 31757755568855353 :=
  Modular.prime_of_certifies 10 [2, 2, 2, 3, 31, 107, 223, 4153, 430751] (by norm_num) (by decide)

private theorem prime_75445702479781427272750846543864801 :
    Nat.Prime 75445702479781427272750846543864801 :=
  Modular.prime_of_certifies 7
    ([2, 2, 2, 2, 2, 3, 3, 5, 5, 75707] ++ [72106336199, 1919519569386763])
    (List.forall_mem_append.mpr
      ⟨by norm_num, by simp [prime_72106336199, prime_1919519569386763]⟩)
    (by decide)

private theorem prime_74058212732561358302231226437062788676166966415465897661863160754340907 :
    Nat.Prime 74058212732561358302231226437062788676166966415465897661863160754340907 :=
  Modular.prime_of_certifies 2
    ([2, 3, 353, 57467, 132049, 1923133] ++
      [31757755568855353, 75445702479781427272750846543864801])
    (List.forall_mem_append.mpr
      ⟨by norm_num, by simp [prime_31757755568855353,
        prime_75445702479781427272750846543864801]⟩)
    (by decide)

set_option maxRecDepth 4000 in
/-- The size of the field is prime. -/
theorem prime_fieldPrime : fieldPrime.Prime :=
  Modular.prime_of_certifies 2
    ([2, 2, 3, 65147] ++
      [74058212732561358302231226437062788676166966415465897661863160754340907])
    (List.forall_mem_append.mpr
      ⟨by norm_num, by
        simp [prime_74058212732561358302231226437062788676166966415465897661863160754340907]⟩)
    (by decide)

private theorem fieldPrime_odd : fieldPrime % 2 = 1 := by decide

private theorem fieldPrime_pos : 0 < fieldPrime := prime_fieldPrime.pos

/-- One has no square roots but one and minus one. -/
theorem eq_one_or_of_sq {y : Nat} (hy : y < fieldPrime) (hsq : y * y % fieldPrime = 1) :
    y = 1 ∨ y = fieldPrime - 1 := by
  have : Fact fieldPrime.Prime := ⟨prime_fieldPrime⟩
  have hcast : (y : ZMod fieldPrime) * y = 1 := by
    rw [← Nat.cast_mul, ← Nat.cast_one, ZMod.natCast_eq_natCast_iff', hsq]
    decide
  obtain h | h := mul_self_eq_one_iff.mp hcast
  · left
    have hmod : y % fieldPrime = 1 % fieldPrime :=
      (ZMod.natCast_eq_natCast_iff' y 1 fieldPrime).mp (by rw [h, Nat.cast_one])
    rwa [Nat.mod_eq_of_lt hy, Nat.mod_eq_of_lt prime_fieldPrime.one_lt] at hmod
  · right
    have hzero : ((y + 1 : Nat) : ZMod fieldPrime) = 0 := by
      rw [Nat.cast_add, Nat.cast_one, h, neg_add_cancel]
    have hle : fieldPrime ≤ y + 1 :=
      Nat.le_of_dvd y.succ_pos ((ZMod.natCast_eq_zero_iff _ _).mp hzero)
    omega

/-! ### What the decoder makes of its input -/

/-- The coordinate that is recovered is reduced and even. -/
theorem recoverX_spec (y : Nat) : recoverX y < fieldPrime ∧ recoverX y % 2 = 0 := by
  have hroot (root : Nat) (hlt : root < fieldPrime) :
      (if root % 2 = 0 then root else fieldPrime - root) < fieldPrime ∧
        (if root % 2 = 0 then root else fieldPrime - root) % 2 = 0 := by
    have hodd := fieldPrime_odd
    split <;> omega
  unfold recoverX
  refine hroot _ ?_
  split
  · rw [Modular.power_eq]
    exact Nat.mod_lt _ fieldPrime_pos
  · exact Nat.mod_lt _ fieldPrime_pos

namespace Point

/-- The point that the decoder makes of a number for `y` and a bit for the oddness of `x`. -/
def candidate (y bit : Nat) : Point :=
  ⟨if recoverX y % 2 = bit then recoverX y else (fieldPrime - recoverX y) % fieldPrime,
    y % fieldPrime⟩

/-- The decoder accepts the candidates in the subgroup, but for one encoding of the identity. -/
theorem decode_eq_ok_iff {bs : Bytes} {p : Point} :
    Point.decode bs = .ok p ↔
      bs ≠ zero.encode ∧ p.onCurve = true ∧ p.killedBy order = true ∧
        p = candidate (Bytes.toNatLE bs % (1 <<< 255)) (Bytes.toNatLE bs >>> 255) := by
  have hdecode : Point.decode bs =
      let p := candidate (Bytes.toNatLE bs % (1 <<< 255)) (Bytes.toNatLE bs >>> 255)
      if bs = zero.encode then .error .zeroElement
      else if !p.onCurve then .error .offCurve
      else if !p.killedBy order then .error .outsideSubgroup
      else .ok p := rfl
  rw [hdecode]
  generalize candidate (Bytes.toNatLE bs % (1 <<< 255)) (Bytes.toNatLE bs >>> 255) = q
  dsimp only
  split
  · next hzero => exact ⟨nofun, fun h ↦ absurd hzero h.1⟩
  · next hzero =>
    split
    · next hoff =>
      refine ⟨nofun, ?_⟩
      rintro ⟨-, hon, -, rfl⟩
      rw [hon] at hoff
      cases hoff
    · next hon =>
      split
      · next hout =>
        refine ⟨nofun, ?_⟩
        rintro ⟨-, -, hin, rfl⟩
        rw [hin] at hout
        cases hout
      · next hin =>
        constructor
        · intro h
          cases h
          exact ⟨hzero, by simpa using hon, by simpa using hin, rfl⟩
        · rintro ⟨-, -, -, rfl⟩
          rfl

/-! ### Strings that are no encodings -/

/-- Of the numbers for `y` that are not reduced, those of the identity aside, none gives a point of
the subgroup. -/
theorem candidate_of_unreduced : ∀ k < 19, ∀ bit < 2,
    candidate (fieldPrime + k) bit = zero ∨ (candidate (fieldPrime + k) bit).onCurve = false ∨
      (candidate (fieldPrime + k) bit).killedBy order = false := by
  decide +kernel

/-- The point of order two is outside the subgroup. -/
theorem killedBy_minusOne : killedBy order ⟨0, fieldPrime - 1⟩ = false := by decide +kernel

/-- On the curve a point with the coordinate zero is the identity or the point of order two. -/
theorem eq_zero_of_onCurve {y : Nat} (hy : y < fieldPrime) (hon : onCurve ⟨0, y⟩ = true)
    (hin : killedBy order ⟨0, y⟩ = true) : (⟨0, y⟩ : Point) = zero := by
  have hsq : y * y % fieldPrime = 1 := by
    unfold onCurve at hon
    dsimp only at hon
    rw [decide_eq_true_eq] at hon
    rw [hon]
    simp only [Nat.mul_zero, Nat.zero_mod, Nat.zero_mul, Nat.add_zero]
    exact Nat.mod_eq_of_lt prime_fieldPrime.one_lt
  obtain rfl | rfl := eq_one_or_of_sq hy hsq
  · rfl
  · rw [killedBy_minusOne] at hin
    cases hin

/-- The coordinate of a candidate is as odd as its bit says, unless it is zero. -/
theorem x_candidate {y bit : Nat} (hbit : bit < 2) :
    (candidate y bit).x % 2 = bit ∨ (candidate y bit).x = 0 := by
  obtain ⟨hlt, heven⟩ := recoverX_spec y
  have hodd := fieldPrime_odd
  unfold candidate
  dsimp only
  split
  · next h => exact .inl h
  · next h =>
    by_cases hzero : recoverX y = 0
    · right
      rw [hzero, Nat.sub_zero, Nat.mod_self]
    · left
      have hlt' : fieldPrime - recoverX y < fieldPrime := by omega
      rw [Nat.mod_eq_of_lt hlt']
      omega

/-- Bytes that are accepted are the encoding of their point, unless this is the identity. -/
theorem encode_of_decode {bs : Bytes} (hlength : bs.length = 32) {p : Point}
    (h : Point.decode bs = .ok p) (hne : p ≠ zero) : p.encode = bs := by
  obtain ⟨-, hon, hin, hp⟩ := decode_eq_ok_iff.mp h
  have hn : Bytes.toNatLE bs < 2 ^ 256 := by
    have hlt := Bytes.toNatLE_lt bs
    rwa [hlength] at hlt
  generalize hspelled : Bytes.toNatLE bs = n at hn hp
  have hone : (1 <<< 255 : Nat) = 2 ^ 255 := Nat.one_shiftLeft 255
  rw [hone, Nat.shiftRight_eq_div_pow] at hp
  have hbit : n / 2 ^ 255 < 2 := by omega
  have hreduced : n % 2 ^ 255 < fieldPrime := by
    by_contra hge
    have hsize : fieldPrime + 19 = 2 ^ 255 := by decide
    obtain ⟨k, hk⟩ := Nat.exists_eq_add_of_le (Nat.not_lt.mp hge)
    rw [hk] at hp
    obtain hzero | hoff | hout := candidate_of_unreduced k (by omega) _ hbit
    · exact hne (hp.trans hzero)
    · rw [hp, hoff] at hon
      cases hon
    · rw [hp, hout] at hin
      cases hin
  have hy : p.y = n % 2 ^ 255 := by
    rw [hp]
    exact Nat.mod_eq_of_lt hreduced
  have hx : p.x % 2 = n / 2 ^ 255 := by
    rw [hp]
    refine (x_candidate hbit).resolve_right fun hzero ↦ ?_
    rw [← hp] at hzero
    obtain ⟨x, y⟩ := p
    obtain rfl : x = 0 := hzero
    exact hne (eq_zero_of_onCurve (hy.trans_lt hreduced) hon hin)
  calc p.encode = Bytes.ofNatLE 32 (n % 2 ^ 255 + n / 2 ^ 255 * 2 ^ 255) := by
        rw [encode, hy, hx, Nat.shiftLeft_eq]
    _ = Bytes.ofNatLE bs.length (Bytes.toNatLE bs) := by
        rw [hlength, hspelled, Nat.mod_add_div']
    _ = bs := Bytes.ofNatLE_toNatLE bs

end Point

private theorem group_encode : group.encode = Point.encode := by
  unfold group
  with_reducible rfl

private theorem group_decode : group.decode = Point.decode := by
  unfold group
  with_reducible rfl

private theorem group_identity : group.identity = Point.zero := by
  unfold group
  with_reducible rfl

/-- A candidate in the subgroup that is not written as the identity is read from its encoding. -/
theorem decodeElement_encode {p : Point} (h : Point.decode p.encode = .ok p)
    (hne : p.encode ≠ Point.zero.encode) (name : String) :
    group.decodeElement p.encode name = .ok p := by
  refine PrimeGroup.decodeElement_eq_ok_iff.mpr ⟨?_, ?_, ?_⟩
  · exact Bytes.length_ofNatLE 32 _
  · rw [group_decode]
    exact h
  · unfold PrimeGroup.isIdentity
    rw [group_encode, group_identity]
    exact decide_eq_false hne

end Apake.Edwards

namespace Apake

/-- Residues that are accepted are written as they were read. -/
theorem Residue.encode_of_decode {bs : Bytes} (hlength : bs.length = group.elementLength)
    {e : group.Element} (h : group.decode bs = .ok e) : group.encode e = bs := by
  have hlength : bs.length = 256 := hlength
  have h : decode bs = .ok e := h
  have he : e = Bytes.toNat bs := by
    unfold decode at h
    dsimp only at h
    split at h
    · cases h
    · split at h
      · cases h
      · exact (Except.ok.inj h).symm
  have hencode : group.encode = Bytes.ofNat 256 := by
    unfold group
    with_reducible rfl
  rw [hencode, he, ← hlength, Bytes.ofNat_toNat]

section Standard

attribute [local instance] Groups.standard

/-- What a standard group accepts is the encoding of the element that it stands for. -/
theorem PrimeGroupName.encode_of_decodeElement (n : PrimeGroupName) {bs : Bytes} {name : String}
    {e : (Groups.prime n).Element} (h : (Groups.prime n).decodeElement bs name = .ok e) :
    (Groups.prime n).encode e = bs := by
  obtain ⟨hlength, hdecode, hid⟩ := PrimeGroup.decodeElement_eq_ok_iff.mp h
  cases n with
  | ed25519 =>
    refine Edwards.Point.encode_of_decode hlength hdecode ?_
    rintro rfl
    exact of_decide_eq_false hid rfl
  | i2048 => exact Residue.encode_of_decode hlength hdecode

/-- An element of a standard group is read from one string only, which is its encoding.  So to
compare strings that are accepted is to compare elements, and an evaluation that stands for the
blinded element itself is refused as reflected. -/
theorem PrimeGroupName.checkNotReflected_iff_of_decodeElement (n : PrimeGroupName)
    {blinded evaluated : Bytes} {name name' : String} {e e' : (Groups.prime n).Element}
    (h : (Groups.prime n).decodeElement blinded name = .ok e)
    (h' : (Groups.prime n).decodeElement evaluated name' = .ok e') :
    (Groups.prime n).encode e = blinded ∧ (Groups.prime n).encode e' = evaluated ∧
      (e' = e → evaluated = blinded) ∧
      (Blinding.checkNotReflected blinded evaluated = .error .reflected ↔ e' = e) := by
  have hblinded := n.encode_of_decodeElement h
  have hevaluated := n.encode_of_decodeElement h'
  have hsame : blinded = evaluated ↔ e' = e := by
    constructor
    · rintro rfl
      have helement := (PrimeGroup.decodeElement_eq_ok_iff.mp h).2.1
      have helement' := (PrimeGroup.decodeElement_eq_ok_iff.mp h').2.1
      exact Except.ok.inj (helement'.symm.trans helement)
    · rintro rfl
      exact hblinded.symm.trans hevaluated
  refine ⟨hblinded, hevaluated, fun he ↦ (hsame.mpr he).symm, ?_⟩
  unfold Blinding.checkNotReflected
  split
  · next heq => exact iff_of_true rfl (hsame.mp heq)
  · next hne => exact iff_of_false nofun (hne ∘ hsame.mpr)

/-- The generator of the Edwards curve is read from its encoding, which sent back is refused. -/
theorem PrimeGroupName.checkNotReflected_base :
    let sent := Edwards.Point.base.encode
    (Groups.prime .ed25519).decodeElement sent "blinded message" = .ok Edwards.Point.base ∧
      (Groups.prime .ed25519).decodeElement sent "evaluated message" = .ok Edwards.Point.base ∧
      Blinding.checkNotReflected sent sent = .error .reflected := by
  intro sent
  have hsubgroup : Edwards.Point.base.encode ≠ Edwards.Point.zero.encode ∧
      Edwards.Point.base.onCurve = true ∧ Edwards.Point.base.killedBy Edwards.order = true ∧
      Edwards.Point.base = .candidate (Bytes.toNatLE Edwards.Point.base.encode % (1 <<< 255))
        (Bytes.toNatLE Edwards.Point.base.encode >>> 255) := by
    decide +kernel
  have hread (name : String) : Edwards.group.decodeElement sent name = .ok Edwards.Point.base :=
    Edwards.decodeElement_encode (Edwards.Point.decode_eq_ok_iff.mpr hsubgroup) hsubgroup.1 name
  obtain ⟨-, -, -, hreflected⟩ := checkNotReflected_iff_of_decodeElement .ed25519
    (hread "blinded message") (hread "evaluated message")
  exact ⟨hread _, hread _, hreflected.mpr rfl⟩

end Standard

end Apake
