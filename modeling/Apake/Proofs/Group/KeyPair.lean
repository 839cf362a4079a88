import Apake.Suite
import Apake.Proofs.Group.Laws

/-!
# Key pairs

A private key and its public key belong together if the public key is computed from the private one.
For such pairs a public key has its size and passes validation, two owners compute the same
Diffie-Hellman value, and drawn and derived private keys have a public key.
-/

namespace Apake

/-- The laws of Diffie-Hellman on the Montgomery curve: values have 32 bytes, those of two key pairs
agree, and none of them is all zeros. -/
structure MontgomeryLaws [Groups] : Prop where
  length {sk u : Bytes} : sk.length = 32 → u.length = 32 → (Groups.x25519 sk u).length = 32
  comm {a b : Bytes} : a.length = 32 → b.length = 32 →
    Groups.x25519 a (Groups.x25519 b ExchangeName.basePoint) =
      Groups.x25519 b (Groups.x25519 a ExchangeName.basePoint)
  ne_zeros {a b : Bytes} : a.length = 32 → b.length = 32 →
    Groups.x25519 a (Groups.x25519 b ExchangeName.basePoint) ≠ Bytes.zeros 32

namespace ExchangeName

variable [Groups] {x : ExchangeName} {sk sk' pk pk' : Bytes}

/-- The laws of the operations behind a key exchange. -/
def Lawful : ExchangeName → Prop
  | x25519 => MontgomeryLaws
  | prime group => (Groups.prime group).Lawful

/-- What the sizes of keys rest on: on the Montgomery curve values have 32 bytes, and a group of
prime order obeys its laws. -/
def Regular : ExchangeName → Prop
  | x25519 => ∀ sk u : Bytes, sk.length = 32 → u.length = 32 → (Groups.x25519 sk u).length = 32
  | prime group => (Groups.prime group).Lawful

theorem Lawful.regular (lawful : x.Lawful) : x.Regular := by
  cases x with
  | x25519 => exact fun _ _ ↦ MontgomeryLaws.length lawful
  | prime group => exact lawful

/-- On the Montgomery curve every 32 bytes are a private key. -/
theorem publicKey_x25519_eq_ok_iff :
    x25519.publicKey sk = .ok pk ↔ sk.length = 32 ∧ pk = Groups.x25519 sk basePoint := by
  unfold publicKey montgomeryKey
  rw [Except.bind_eq_ok_iff]
  constructor
  · rintro ⟨a, ha, hpk⟩
    split at ha
    · cases ha
    · next h =>
      cases ha
      cases hpk
      exact ⟨by simpa using h, rfl⟩
  · rintro ⟨hlength, rfl⟩
    exact ⟨sk, by simp [hlength], rfl⟩

/-- In a group of prime order a private key is an encoded scalar. -/
theorem publicKey_prime_eq_ok_iff {group : PrimeGroupName} :
    (prime group).publicKey sk = .ok pk ↔
      ∃ k : Nat, (Groups.prime group).decodeScalar sk "private key" = .ok k ∧
        pk = (Groups.prime group).encode ((Groups.prime group).multiplyBase k) := by
  unfold publicKey
  rw [Except.bind_eq_ok_iff]
  constructor
  · rintro ⟨k, hk, hpk⟩
    cases hpk
    exact ⟨k, hk, rfl⟩
  · rintro ⟨k, hk, rfl⟩
    exact ⟨k, hk, rfl⟩

omit [Groups] in
private theorem multiplyBase_ne {g : PrimeGroup} {Member : g.Element → Prop}
    (laws : g.Laws Member) {name : String} {k : Nat} (hk : g.decodeScalar sk name = .ok k) :
    Member (g.multiplyBase k) ∧ g.multiplyBase k ≠ g.identity := by
  obtain ⟨-, -, hscalar⟩ := PrimeGroup.decodeScalar_eq_ok_iff.mp hk
  exact laws.multiplyBase_mem hscalar

/-- A public key has the size that the exchange states. -/
theorem Regular.length_of_publicKey (regular : x.Regular) (h : x.publicKey sk = .ok pk) :
    pk.length = x.publicLength := by
  cases x with
  | x25519 =>
    obtain ⟨hsk, rfl⟩ := publicKey_x25519_eq_ok_iff.mp h
    exact regular _ _ hsk (Bytes.length_ofNatLE 32 9)
  | prime group =>
    obtain ⟨Member, laws⟩ := regular
    obtain ⟨k, hk, rfl⟩ := publicKey_prime_eq_ok_iff.mp h
    exact laws.length_encode (multiplyBase_ne laws hk).1

theorem length_of_publicKey (lawful : x.Lawful) (h : x.publicKey sk = .ok pk) :
    pk.length = x.publicLength := lawful.regular.length_of_publicKey h

/-- A public key is short enough to stand behind its length. -/
theorem publicLength_lt (lawful : x.Lawful) : x.publicLength < 65536 := by
  cases x with
  | x25519 =>
    show 32 < 65536
    omega
  | prime group =>
    obtain ⟨Member, laws⟩ := lawful
    exact laws.elementLength_lt

/-- A private key that has a public key has the size that the exchange states. -/
theorem length_privateKey_of_publicKey (h : x.publicKey sk = .ok pk) :
    sk.length = x.privateLength := by
  cases x with
  | x25519 => exact (publicKey_x25519_eq_ok_iff.mp h).1
  | prime group =>
    obtain ⟨k, hk, -⟩ := publicKey_prime_eq_ok_iff.mp h
    exact (PrimeGroup.decodeScalar_eq_ok_iff.mp hk).1

/-- A public key passes validation. -/
theorem Regular.validatePublicKey_of_publicKey (regular : x.Regular)
    (h : x.publicKey sk = .ok pk) (name : String) : x.validatePublicKey pk name = .ok () := by
  cases x with
  | x25519 =>
    have hlength : pk.length = 32 := regular.length_of_publicKey h
    unfold validatePublicKey
    rw [if_neg (by simp [hlength])]
  | prime group =>
    obtain ⟨Member, laws⟩ := regular
    obtain ⟨k, hk, rfl⟩ := publicKey_prime_eq_ok_iff.mp h
    obtain ⟨hmem, hne⟩ := multiplyBase_ne laws hk
    unfold validatePublicKey
    exact Except.bind_of_ok (laws.decodeElement_encode hmem hne name) rfl

theorem validatePublicKey_of_publicKey (lawful : x.Lawful) (h : x.publicKey sk = .ok pk)
    (name : String) : x.validatePublicKey pk name = .ok () :=
  lawful.regular.validatePublicKey_of_publicKey h name

/-- On the Montgomery curve keys of the right sizes have a shared value that is not zero. -/
theorem diffieHellman_x25519 (hsk : sk.length = 32) (hpk : pk.length = 32)
    (hne : Groups.x25519 sk pk ≠ Bytes.zeros 32) :
    x25519.diffieHellman sk pk = .ok (Groups.x25519 sk pk) := by
  unfold diffieHellman validatePublicKey
  simp [hsk, hpk, hne, bind, Except.bind]

/-- In a group of prime order the shared value is the multiple of the peer's element. -/
theorem diffieHellman_prime {group : PrimeGroupName} {k : Nat}
    {e : (Groups.prime group).Element}
    (hk : (Groups.prime group).decodeScalar sk "private key" = .ok k)
    (he : (Groups.prime group).decodeElement pk "peer public key" = .ok e) :
    (prime group).diffieHellman sk pk =
      .ok ((Groups.prime group).encode ((Groups.prime group).multiply k e)) := by
  unfold diffieHellman
  exact Except.bind_of_ok hk <| Except.bind_of_ok he rfl

/-- The owners of two key pairs compute the same value, each from its own private key and the public
key of the other. -/
theorem diffieHellman_comm (lawful : x.Lawful) (h : x.publicKey sk = .ok pk)
    (h' : x.publicKey sk' = .ok pk') :
    ∃ shared, x.diffieHellman sk pk' = .ok shared ∧ x.diffieHellman sk' pk = .ok shared := by
  cases x with
  | x25519 =>
    obtain ⟨hsk, hpk⟩ := publicKey_x25519_eq_ok_iff.mp h
    obtain ⟨hsk', hpk'⟩ := publicKey_x25519_eq_ok_iff.mp h'
    have hlength : pk.length = 32 := length_of_publicKey lawful h
    have hlength' : pk'.length = 32 := length_of_publicKey lawful h'
    have hcomm : Groups.x25519 sk pk' = Groups.x25519 sk' pk := by
      rw [hpk, hpk', lawful.comm hsk hsk']
    refine ⟨Groups.x25519 sk pk', diffieHellman_x25519 hsk hlength' ?_, ?_⟩
    · rw [hpk']
      exact lawful.ne_zeros hsk hsk'
    · rw [hcomm]
      apply diffieHellman_x25519 hsk' hlength
      rw [hpk]
      exact lawful.ne_zeros hsk' hsk
  | prime group =>
    obtain ⟨Member, laws⟩ := lawful
    obtain ⟨k, hk, rfl⟩ := publicKey_prime_eq_ok_iff.mp h
    obtain ⟨k', hk', rfl⟩ := publicKey_prime_eq_ok_iff.mp h'
    obtain ⟨hmem, hne⟩ := multiplyBase_ne laws hk
    obtain ⟨hmem', hne'⟩ := multiplyBase_ne laws hk'
    refine ⟨_, diffieHellman_prime hk (laws.decodeElement_encode hmem' hne' _), ?_⟩
    rw [diffieHellman_prime hk' (laws.decodeElement_encode hmem hne _)]
    unfold PrimeGroup.multiplyBase
    rw [laws.multiply_comm _ _ laws.base_mem]

/-- Private keys that belong to a public key. -/
def IsPrivateKey (x : ExchangeName) (sk : Bytes) : Prop := ∃ pk, x.publicKey sk = .ok pk

private theorem isPrivateKey_encodeScalar {group : PrimeGroupName} {k : Nat}
    (hk : (Groups.prime group).IsScalar k) :
    (prime group).IsPrivateKey (Bytes.ofNat (Groups.prime group).scalarLength k) :=
  ⟨_, publicKey_prime_eq_ok_iff.mpr ⟨k, PrimeGroup.decodeScalar_ofNat hk _, rfl⟩⟩

/-- Where scalars are served, so are private keys. -/
theorem randomPrivateKey_prime_serves {t : Trust} {group : PrimeGroupName}
    (hlength : (Groups.prime group).scalarLength < 65536)
    (hscalar : (Groups.prime group).randomScalar.Serves t (Groups.prime group).IsScalar) :
    (prime group).randomPrivateKey.Serves t (prime group).IsPrivateKey :=
  hscalar.bind fun _ hk ↦
    .lift (PrimeGroup.encodeScalar_of_isScalar hlength hk) (isPrivateKey_encodeScalar hk)

/-- On the Montgomery curve whatever is drawn is a private key. -/
theorem randomPrivateKey_x25519_serves {searches : Prop} :
    x25519.randomPrivateKey.Serves (.anySource searches) x25519.IsPrivateKey :=
  (Draw.Serves.bytes 32).mono fun _ hsk ↦ ⟨_, publicKey_x25519_eq_ok_iff.mpr ⟨hsk, rfl⟩⟩

/-- Whether private keys are searched for among the numbers drawn. -/
def Searches : ExchangeName → Prop
  | x25519 => False
  | prime group => (Groups.prime group).Searches

/-- A drawn private key belongs to a public key. -/
theorem randomPrivateKey_serves (lawful : x.Lawful) {searches : Prop}
    (hsearches : x.Searches → searches) :
    x.randomPrivateKey.Serves (.anySource searches) x.IsPrivateKey := by
  cases x with
  | x25519 => exact randomPrivateKey_x25519_serves
  | prime group =>
    obtain ⟨Member, laws⟩ := lawful
    exact randomPrivateKey_prime_serves laws.scalarLength_lt
      (PrimeGroup.randomScalar_serves laws.order_pos hsearches)

/-- A derived private key belongs to a public key. -/
theorem isPrivateKey_of_derivePrivateKey (lawful : x.Lawful) {h : HashAlgorithm}
    {seed : Bytes} (hsk : x.derivePrivateKey h seed = .ok sk) : x.IsPrivateKey sk := by
  cases x with
  | x25519 =>
    cases hsk
    exact ⟨_, publicKey_x25519_eq_ok_iff.mpr ⟨h.length_expand _ _ 32, rfl⟩⟩
  | prime group =>
    obtain ⟨Member, laws⟩ := lawful
    obtain ⟨k, hk, hsk⟩ := Except.bind_eq_ok_iff.mp hsk
    have hscalar := PrimeGroup.isScalar_of_deriveScalar laws.order_pos hk
    rw [laws.encodeScalar_eq hscalar] at hsk
    cases hsk
    exact isPrivateKey_encodeScalar hscalar

end ExchangeName

/-- The laws of the operations behind a suite. -/
structure Suite.Lawful [Groups] (s : Suite) : Prop where
  group : s.group.Lawful
  exchange : s.exchange.Lawful

/-- On the admitted sources everything that a suite draws is as it should be, or the failure is
excused. -/
structure Trust.Sound [Groups] (t : Trust) (s : Suite) : Prop where
  bytes (n : Nat) : (Draw.bytes n).Serves t fun bs ↦ bs.length = n
  scalar : s.group.randomScalar.Serves t s.group.IsScalar
  privateKey : s.exchange.randomPrivateKey.Serves t s.exchange.IsPrivateKey

/-- Whether scalars or private keys are searched for among the numbers drawn. -/
def Suite.Searches [Groups] (s : Suite) : Prop := s.group.Searches ∨ s.exchange.Searches

/-- Whatever a source answers, the draws of a lawful suite are as they should be, or the source is
to blame. -/
theorem Trust.anySource_sound [Groups] {s : Suite} (lawful : s.Lawful) :
    (Trust.anySource s.Searches).Sound s where
  bytes := Draw.Serves.bytes
  scalar := by
    obtain ⟨Member, laws⟩ := lawful.group
    exact PrimeGroup.randomScalar_serves laws.order_pos .inl
  privateKey := ExchangeName.randomPrivateKey_serves lawful.exchange .inr

end Apake
