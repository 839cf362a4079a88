import Apake.Server.Setup
import Apake.Proofs.Blinding

/-!
# Setups as they are made

A setup that was made and not wiped can read both of its secrets, and its public key and its
stand-in key belong to private keys.
-/

namespace Apake.ServerSetup

variable [Groups] {s : Suite} {setup : ServerSetup} {seed privateKey : Bytes}

/-- A setup that holds a seed and a private key. -/
structure Holds (setup : ServerSetup) (seed privateKey : Bytes) : Prop where
  readSeed : setup.seed.read = .ok seed
  readPrivateKey : setup.privateKey.read = .ok privateKey
  publicKey : setup.suite.exchange.publicKey privateKey = .ok setup.publicKey
  standInKey : ∃ sk, setup.suite.exchange.publicKey sk = .ok setup.standInKey

/-- A setup that was made holds what it was made from. -/
theorem holds_of_make (h : make s seed privateKey = .ok setup) :
    setup.suite = s ∧ setup.Holds seed privateKey := by
  unfold make at h
  obtain ⟨-, h⟩ := Except.refuseIf_eq_ok_iff.mp h
  obtain ⟨publicKey, hpublic, h⟩ := Except.bind_eq_ok_iff.mp h
  obtain ⟨sk, -, h⟩ := Except.bind_eq_ok_iff.mp h
  obtain ⟨standInKey, hstandIn, h⟩ := Except.bind_eq_ok_iff.mp h
  cases h
  exact ⟨rfl, rfl, rfl, hpublic, sk, hstandIn⟩

/-- A setup is made if its seed has the size of a digest, its private key has a public key, and so
has the private key that is derived for stand-in records. -/
theorem exists_make {standIn pk pk' : Bytes} (hseed : seed.length = s.hashLength)
    (hpublic : s.exchange.publicKey privateKey = .ok pk)
    (hstandIn : s.exchange.derivePrivateKey s.hash
      (s.hash.expand seed standInKeyLabel s.seedLength) = .ok standIn)
    (hstandInKey : s.exchange.publicKey standIn = .ok pk') :
    make s seed privateKey = .ok ⟨s, .ofBytes seed, .ofBytes privateKey, pk, pk'⟩ := by
  unfold make
  refine Except.refuseIf_eq_ok_iff.mpr ⟨by simp [hseed], ?_⟩
  exact Except.bind_of_ok hpublic <| Except.bind_of_ok hstandIn <|
    Except.bind_of_ok hstandInKey rfl

/-- A setup is made exactly if its seed has the size of a digest and both its own private key and
the one for stand-in records have a public key. -/
theorem make_eq_ok_iff :
    make s seed privateKey = .ok setup ↔
      seed.length = s.hashLength ∧ ∃ pk standIn pk', s.exchange.publicKey privateKey = .ok pk ∧
        s.exchange.derivePrivateKey s.hash (s.hash.expand seed standInKeyLabel s.seedLength) =
          .ok standIn ∧
        s.exchange.publicKey standIn = .ok pk' ∧
        setup = ⟨s, .ofBytes seed, .ofBytes privateKey, pk, pk'⟩ := by
  constructor
  · intro h
    unfold make at h
    obtain ⟨hseed, h⟩ := Except.refuseIf_eq_ok_iff.mp h
    obtain ⟨pk, hpublic, h⟩ := Except.bind_eq_ok_iff.mp h
    obtain ⟨standIn, hstandIn, h⟩ := Except.bind_eq_ok_iff.mp h
    obtain ⟨pk', hstandInKey, h⟩ := Except.bind_eq_ok_iff.mp h
    cases h
    exact ⟨Decidable.not_not.mp hseed, pk, standIn, pk', hpublic, hstandIn, hstandInKey, rfl⟩
  · rintro ⟨hseed, pk, standIn, pk', hpublic, hstandIn, hstandInKey, rfl⟩
    exact exists_make hseed hpublic hstandIn hstandInKey

namespace Holds

variable (holds : setup.Holds seed privateKey)

include holds

/-- A setup that holds its secrets is written as them. -/
theorem toBytes_eq : setup.toBytes = .ok (seed ++ privateKey) :=
  Except.bind_of_ok holds.readSeed (Except.bind_of_ok holds.readPrivateKey rfl)

theorem accountKey_eq (identifier : Bytes) :
    setup.accountKey identifier = Blinding.accountKey setup.suite seed identifier := by
  unfold accountKey
  rw [holds.readSeed]
  rfl

/-- The keys of accounts are scalars. -/
theorem isScalar_of_accountKey (lawful : setup.suite.group.Lawful) {identifier : Bytes} {key : Nat}
    (h : setup.accountKey identifier = .ok key) : setup.suite.group.IsScalar key := by
  rw [holds.accountKey_eq] at h
  exact Blinding.isScalar_of_accountKey lawful h

end Holds

end Apake.ServerSetup
