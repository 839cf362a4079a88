import Apake.Proofs.Group.Residue

/-!
# The sizes of keys and shared values

Which lengths elements, public keys and shared values have does not rest on the laws of the groups:
the standard groups write everything in a fixed number of bytes.
-/

namespace Apake

/-- Group operations whose results have fixed sizes. -/
structure Groups.Sized [Groups] : Prop where
  prime (n : PrimeGroupName) : (Groups.prime n).Sized
  length_x25519 (sk u : Bytes) : (Groups.x25519 sk u).length = 32

/-- Points are written in 32 bytes. -/
theorem Edwards.sized_group : group.Sized where
  order_pos := by decide
  length_encode _ := Bytes.length_ofNatLE 32 _
  elementLength_lt := by decide
  scalarLength_lt := by decide

/-- The standard groups write everything in a fixed number of bytes. -/
theorem Groups.sized_standard : @Groups.Sized Groups.standard :=
  let := Groups.standard
  { prime := fun n ↦
      match n with
      | .ed25519 => Edwards.sized_group
      | .i2048 => Residue.sized_group
    length_x25519 := fun _ _ ↦ Bytes.length_ofNatLE 32 _ }

/-- They do so whatever is made of seeds. -/
theorem Groups.sized_seeded (seeds : Bytes → Nat) : @Groups.Sized (Groups.seeded seeds) :=
  let := Groups.seeded seeds
  { prime := fun n ↦
      match n with
      | .ed25519 => Edwards.sized_group
      | .i2048 => Residue.sized_seededGroup
    length_x25519 := fun _ _ ↦ Bytes.length_ofNatLE 32 _ }

namespace Groups.Sized

variable [Groups] (sized : Groups.Sized) {x : ExchangeName} {sk pk : Bytes}

include sized

/-- A public key has the size that the exchange states. -/
theorem length_publicKey (h : x.publicKey sk = .ok pk) : pk.length = x.publicLength := by
  cases x with
  | x25519 =>
    obtain ⟨-, rfl⟩ := ExchangeName.publicKey_x25519_eq_ok_iff.mp h
    exact sized.length_x25519 _ _
  | prime group =>
    obtain ⟨k, -, rfl⟩ := ExchangeName.publicKey_prime_eq_ok_iff.mp h
    exact (sized.prime group).length_encode _

/-- A public key is short enough to stand behind its length. -/
theorem publicLength_lt (x : ExchangeName) : x.publicLength < 65536 := by
  cases x with
  | x25519 =>
    show 32 < 65536
    omega
  | prime group => exact (sized.prime group).elementLength_lt

/-- A drawn private key belongs to a public key. -/
theorem randomPrivateKey_serves (x : ExchangeName) {searches : Prop}
    (hsearches : x.Searches → searches) :
    x.randomPrivateKey.Serves (.anySource searches) x.IsPrivateKey := by
  cases x with
  | x25519 => exact ExchangeName.randomPrivateKey_x25519_serves
  | prime group =>
    exact ExchangeName.randomPrivateKey_prime_serves (sized.prime group).scalarLength_lt
      (PrimeGroup.randomScalar_serves (sized.prime group).order_pos hsearches)

end Groups.Sized

end Apake
