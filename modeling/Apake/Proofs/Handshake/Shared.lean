import Apake.Proofs.Protocol.Steady

/-!
# The shared values of a login

Every private key that is drawn or derived has a public key, and from four of them both sides
compute the same three Diffie-Hellman values.  A key exchange only multiplies, writes and reads
elements, so nothing is asked here of the elements that seeds lead to.
-/

namespace Apake

namespace PrimeGroup

/-- The group with every seed led to the generator, so that its laws say nothing of seeds. -/
def withoutSeeds (g : PrimeGroup) : PrimeGroup := { g with ofSeed := fun _ ↦ g.base }

variable {g : PrimeGroup} {Member : g.Element → Prop} (laws : g.withoutSeeds.Laws Member)

include laws

/-- The multiple of the generator by a scalar is read back from its encoding. -/
theorem decodeElement_multiplyBase {k : Nat} (hk : g.IsScalar k) (name : String) :
    g.decodeElement (g.encode (g.multiplyBase k)) name = .ok (g.multiplyBase k) := by
  obtain ⟨hmem, hne⟩ := laws.multiplyBase_mem hk
  apply decodeElement_eq_ok_iff.mpr
  refine ⟨laws.length_encode hmem, laws.decode_encode hmem hne, ?_⟩
  exact (laws.isIdentity_eq_false_iff hmem).mpr hne

end PrimeGroup

namespace ExchangeName

variable [Groups] {x : ExchangeName} {sk sk' pk pk' : Bytes}

/-- What a key exchange rests on: values on the Montgomery curve agree and do not vanish, and the
multiples in a group of prime order obey its laws, wherever seeds lead. -/
def Acts : ExchangeName → Prop
  | x25519 => MontgomeryLaws
  | prime group => (Groups.prime group).withoutSeeds.Lawful

/-- Private keys as they come to be: drawn from a source, or derived from a seed. -/
inductive Makes (x : ExchangeName) (sk : Bytes) : Prop
  | drawn {e e' : Entropy} (hdrawn : x.randomPrivateKey.runOn e = (.ok sk, e'))
  | derived {h : HashAlgorithm} {seed : Bytes} (hderived : x.derivePrivateKey h seed = .ok sk)

/-- A private key and a public key that belong together, the public one passing validation. -/
structure IsPair (x : ExchangeName) (sk pk : Bytes) : Prop where
  publicKey : x.publicKey sk = .ok pk
  valid (name : String) : x.validatePublicKey pk name = .ok ()

/-- On the Montgomery curve a private key that was made has 32 bytes. -/
theorem Makes.length_x25519 (made : x25519.Makes sk) : sk.length = 32 := by
  cases made with
  | drawn hdrawn => exact Draw.length_of_runOn_bytes hdrawn
  | derived hderived =>
    cases hderived
    exact HashAlgorithm.length_expand _ _ _ 32

/-- In a group of prime order a private key that was made is the encoding of a scalar. -/
theorem Makes.exists_scalar {group : PrimeGroupName} (made : (prime group).Makes sk)
    (hpos : 0 < (Groups.prime group).order) (hlength : (Groups.prime group).scalarLength < 65536) :
    ∃ k, (Groups.prime group).IsScalar k ∧
      (Groups.prime group).decodeScalar sk "private key" = .ok k := by
  have hscalar : ∃ k, (Groups.prime group).IsScalar k ∧
      (Groups.prime group).encodeScalar k = .ok sk := by
    cases made with
    | drawn hdrawn =>
      obtain ⟨k, e₁, hk, h⟩ := Draw.runOn_bind_eq_ok_iff.mp hdrawn
      refine ⟨k, (PrimeGroup.randomScalar_serves hpos id).of_runOn trivial hk, ?_⟩
      rw [Draw.runOn_lift] at h
      exact congrArg Prod.fst h
    | derived hderived =>
      obtain ⟨k, hk, h⟩ := Except.bind_eq_ok_iff.mp hderived
      exact ⟨k, PrimeGroup.isScalar_of_deriveScalar hpos hk, h⟩
  obtain ⟨k, hk, hsk⟩ := hscalar
  rw [PrimeGroup.encodeScalar_of_isScalar hlength hk] at hsk
  cases hsk
  exact ⟨k, hk, PrimeGroup.decodeScalar_ofNat hk _⟩

/-- A private key that was made is half of a key pair. -/
theorem Makes.exists_pair (made : x.Makes sk) (acts : x.Acts) : ∃ pk, x.IsPair sk pk := by
  cases x with
  | x25519 =>
    have lawful : x25519.Lawful := acts
    have hpk := publicKey_x25519_eq_ok_iff.mpr ⟨made.length_x25519, rfl⟩
    exact ⟨_, hpk, validatePublicKey_of_publicKey lawful hpk⟩
  | prime group =>
    obtain ⟨Member, laws⟩ := acts
    obtain ⟨k, hk, hsk⟩ := made.exists_scalar laws.order_pos laws.scalarLength_lt
    refine ⟨_, publicKey_prime_eq_ok_iff.mpr ⟨k, hsk, rfl⟩, ?_⟩
    intro name
    exact Except.bind_of_ok (PrimeGroup.decodeElement_multiplyBase laws hk name) rfl

/-- On the Montgomery curve two owners compute the same value of 32 bytes. -/
theorem exists_shared_x25519 (laws : MontgomeryLaws) (h : x25519.publicKey sk = .ok pk)
    (h' : x25519.publicKey sk' = .ok pk') :
    ∃ shared, x25519.diffieHellman sk pk' = .ok shared ∧ x25519.diffieHellman sk' pk = .ok shared ∧
      shared.length = 32 := by
  obtain ⟨hsk, hpk⟩ := publicKey_x25519_eq_ok_iff.mp h
  obtain ⟨hsk', hpk'⟩ := publicKey_x25519_eq_ok_iff.mp h'
  have hbase : basePoint.length = 32 := Bytes.length_ofNatLE 32 9
  have hlength : pk.length = 32 := hpk ▸ laws.length hsk hbase
  have hlength' : pk'.length = 32 := hpk' ▸ laws.length hsk' hbase
  have hne : Groups.x25519 sk pk' ≠ Bytes.zeros 32 := hpk' ▸ laws.ne_zeros hsk hsk'
  have hcomm : Groups.x25519 sk' pk = Groups.x25519 sk pk' := by
    rw [hpk, hpk', laws.comm hsk hsk']
  refine ⟨Groups.x25519 sk pk', ?_, ?_, ?_⟩
  · exact diffieHellman_x25519 hsk hlength' hne
  · rw [← hcomm]
    exact diffieHellman_x25519 hsk' hlength (hcomm ▸ hne)
  · exact laws.length hsk hlength'

/-- In a group of prime order both compute the multiple of the generator by the product of their
scalars. -/
theorem exists_shared_prime {group : PrimeGroupName}
    {Member : (Groups.prime group).Element → Prop}
    (laws : (Groups.prime group).withoutSeeds.Laws Member)
    (h : (prime group).publicKey sk = .ok pk) (h' : (prime group).publicKey sk' = .ok pk') :
    ∃ shared, (prime group).diffieHellman sk pk' = .ok shared ∧
      (prime group).diffieHellman sk' pk = .ok shared ∧
      shared.length = (Groups.prime group).elementLength := by
  obtain ⟨k, hk, rfl⟩ := publicKey_prime_eq_ok_iff.mp h
  obtain ⟨k', hk', rfl⟩ := publicKey_prime_eq_ok_iff.mp h'
  obtain ⟨-, -, hscalar⟩ := PrimeGroup.decodeScalar_eq_ok_iff.mp hk
  obtain ⟨-, -, hscalar'⟩ := PrimeGroup.decodeScalar_eq_ok_iff.mp hk'
  -- Neither owner's check of the other's element fails, so both values are plain multiples.
  have hcomm : (Groups.prime group).multiply k ((Groups.prime group).multiplyBase k') =
      (Groups.prime group).multiply k' ((Groups.prime group).multiplyBase k) :=
    laws.multiply_comm k k' laws.base_mem
  have hmem := (laws.multiplyBase_mem hscalar').1
  refine ⟨(Groups.prime group).encode
    ((Groups.prime group).multiply k ((Groups.prime group).multiplyBase k')), ?_, ?_, ?_⟩
  · exact diffieHellman_prime hk (PrimeGroup.decodeElement_multiplyBase laws hscalar' _)
  · rw [hcomm]
    exact diffieHellman_prime hk' (PrimeGroup.decodeElement_multiplyBase laws hscalar _)
  · exact laws.length_encode (laws.multiply_mem k hmem)

/-- The owners of two key pairs compute the same value, which has the size of a public key. -/
theorem IsPair.exists_shared (pair : x.IsPair sk pk) (pair' : x.IsPair sk' pk') (acts : x.Acts) :
    ∃ shared, x.diffieHellman sk pk' = .ok shared ∧ x.diffieHellman sk' pk = .ok shared ∧
      shared.length = x.publicLength := by
  cases x with
  | x25519 => exact exists_shared_x25519 acts pair.publicKey pair'.publicKey
  | prime group =>
    obtain ⟨Member, laws⟩ := acts
    exact exists_shared_prime laws pair.publicKey pair'.publicKey

/-- Where sampling is by rejection, every scalar is a private key that some source gives. -/
theorem makes_of_isScalar {group : PrimeGroupName} {n k : Nat}
    (hsampling : (Groups.prime group).sampling = .reject n)
    (hlength : (Groups.prime group).scalarLength < 65536) (hk : (Groups.prime group).IsScalar k)
    (hfits : k < 256 ^ n) :
    (prime group).Makes (Bytes.ofNat (Groups.prime group).scalarLength k) := by
  have hdrawn := PrimeGroup.runOn_randomScalar_reject hsampling hk hfits
    (e := ⟨fun _ n ↦ .bytes (Bytes.ofNat n k), []⟩) rfl
  apply Makes.drawn
  apply Draw.runOn_bind_of_ok hdrawn
  rw [PrimeGroup.encodeScalar_of_isScalar hlength hk]
  rfl

end ExchangeName

namespace SessionKeys

variable [Groups] {s : Suite}

/-- From four private keys, each drawn or derived, both sides of a login compute the same three
values, which together have three times the size of a public key. -/
theorem shared_of_made (acts : s.exchange.Acts)
    {clientFresh clientStatic serverFresh serverStatic : Bytes}
    (hclientFresh : s.exchange.Makes clientFresh) (hclientStatic : s.exchange.Makes clientStatic)
    (hserverFresh : s.exchange.Makes serverFresh) (hserverStatic : s.exchange.Makes serverStatic) :
    ∃ clientShare clientKey serverShare serverKey,
      s.exchange.IsPair clientFresh clientShare ∧ s.exchange.IsPair clientStatic clientKey ∧
      s.exchange.IsPair serverFresh serverShare ∧ s.exchange.IsPair serverStatic serverKey ∧
      ∃ shared, clientShared s clientFresh clientStatic serverKey serverShare = .ok shared ∧
        serverShared s serverFresh serverStatic clientKey clientShare = .ok shared ∧
        shared.length = 3 * s.publicLength := by
  obtain ⟨clientShare, clientFreshPair⟩ := hclientFresh.exists_pair acts
  obtain ⟨clientKey, clientStaticPair⟩ := hclientStatic.exists_pair acts
  obtain ⟨serverShare, serverFreshPair⟩ := hserverFresh.exists_pair acts
  obtain ⟨serverKey, serverStaticPair⟩ := hserverStatic.exists_pair acts
  refine ⟨clientShare, clientKey, serverShare, serverKey, clientFreshPair, clientStaticPair,
    serverFreshPair, serverStaticPair, ?_⟩
  obtain ⟨a, ha, ha', hasize⟩ := clientFreshPair.exists_shared serverFreshPair acts
  obtain ⟨b, hb, hb', hbsize⟩ := clientFreshPair.exists_shared serverStaticPair acts
  obtain ⟨c, hc, hc', hcsize⟩ := clientStaticPair.exists_shared serverFreshPair acts
  refine ⟨a ++ b ++ c, ?_, ?_, ?_⟩
  · exact Except.bind_of_ok ha <| Except.bind_of_ok hb <| Except.bind_of_ok hc rfl
  · exact Except.bind_of_ok ha' <| Except.bind_of_ok hb' <| Except.bind_of_ok hc' rfl
  · have hsuite : s.publicLength = s.exchange.publicLength := rfl
    rw [List.length_append, List.length_append]
    omega

end SessionKeys

section Standard

attribute [local instance] Groups.standard

namespace Residue

/-- Whatever seeds of residues lead to, their multiples obey the laws. -/
theorem acts_exchange : plainSuite.exchange.Acts :=
  ⟨IsMember, seededGroup_laws fun _ ↦ isMember_generator.1⟩

/-- One and two are private keys that some source gives. -/
theorem makes_ofNat {k : Nat} (hpos : 0 < k) (hsmall : k ≤ 2) :
    plainSuite.exchange.Makes (Bytes.ofNat 28 k) := by
  have hscalar : group.IsScalar k := ⟨hpos, hsmall.trans_lt two_lt_order⟩
  have hfits : k < 256 ^ 28 := hsmall.trans_lt (by norm_num)
  have hlength : group.scalarLength = 28 := by
    show (order.log2 + 8) / 8 = 28
    decide
  have hmade : plainSuite.exchange.Makes (Bytes.ofNat group.scalarLength k) :=
    ExchangeName.makes_of_isScalar rfl sized_group.scalarLength_lt hscalar hfits
  rw [hlength] at hmade
  exact hmade

private theorem any_derived (seed : Bytes) (h : seed = Bytes.zeros 32 ∨ seed = Bytes.ofNat 32 1) :
    (plainSuite.exchange.derivePrivateKey plainSuite.hash seed).toOption.any (fun _ ↦ true) =
      true := by
  rcases h with rfl | rfl <;> decide +kernel

end Residue

/-- Over residues, with fresh keys that are drawn and static keys that are derived. -/
theorem SessionKeys.shared_of_made_residue :
    ∃ clientStatic serverStatic clientShare clientKey serverShare serverKey,
      Residue.plainSuite.exchange.IsPair (Bytes.ofNat 28 1) clientShare ∧
      Residue.plainSuite.exchange.IsPair clientStatic clientKey ∧
      Residue.plainSuite.exchange.IsPair (Bytes.ofNat 28 2) serverShare ∧
      Residue.plainSuite.exchange.IsPair serverStatic serverKey ∧
      ∃ shared,
        clientShared Residue.plainSuite (Bytes.ofNat 28 1) clientStatic serverKey serverShare =
          .ok shared ∧
        serverShared Residue.plainSuite (Bytes.ofNat 28 2) serverStatic clientKey clientShare =
          .ok shared ∧
        shared.length = 3 * Residue.plainSuite.publicLength := by
  obtain ⟨clientStatic, hclientStatic, -⟩ := Except.exists_of_any (Residue.any_derived _ (.inl rfl))
  obtain ⟨serverStatic, hserverStatic, -⟩ := Except.exists_of_any (Residue.any_derived _ (.inr rfl))
  exact ⟨clientStatic, serverStatic,
    shared_of_made Residue.acts_exchange (Residue.makes_ofNat (by decide) (by decide))
      (.derived hclientStatic) (Residue.makes_ofNat (by decide) (by decide))
      (.derived hserverStatic)⟩

end Standard

end Apake
