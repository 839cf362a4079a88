import Apake.Proofs.Group.Residue
import Apake.Proofs.Protocol.Enrollment

/-!
# The protocol over residues and a steady source

Over the group of residues every password has an element, and only an account key of one leaves it
where it is.  A source that gives every request the bytes of one never fails, so that registrations
and logins on it come to their end.
-/

namespace Apake

/-- A source that gives every request the bytes of the number one. -/
def Source.steady : Source := fun _ n ↦ .bytes (Bytes.ofNat n 1)

/-- A source that gives its first answer the bytes of a number, and every other those of one. -/
def Source.first (k : Nat) : Source :=
  fun earlier n ↦ .bytes (Bytes.ofNat n (if earlier = [] then k else 1))

/-- The steady source alone, which has no excuse. -/
def Trust.steady : Trust := ⟨fun source ↦ source = .steady, fun _ ↦ False⟩

/-- The steady source serves the bytes of one. -/
theorem Draw.Serves.bytes_steady (n : Nat) :
    (Draw.bytes n).Serves .steady fun bs ↦ bs = Bytes.ofNat n 1 := by
  intro e he
  have he : e.source = .steady := he
  have haccept : Draw.accept n (Source.steady e.asked n) = .ok (Bytes.ofNat n 1) :=
    if_pos (Bytes.length_ofNat n 1)
  refine ⟨rfl, ?_⟩
  rw [Draw.runOn_bytes, he, haccept]
  exact rfl

/-- What is served on the steady source returns there. -/
theorem Draw.Serves.exists_steady {α : Type} {d : Draw α} {P : α → Prop} (h : d.Serves .steady P) :
    ∃ a e', d.runOn ⟨.steady, []⟩ = (.ok a, e') ∧ P a := by
  obtain ⟨a, ha, hP⟩ := (h.served (e := ⟨.steady, []⟩) rfl).exists_of_not_excused fun _ _ h ↦ h
  exact ⟨a, _, runOn_of_fst ha, hP⟩

namespace Residue

attribute [local instance] Groups.closed

/-- The suite over residues without stretching. -/
def plainSuite : Suite := ⟨.i2048Sha256, .identity⟩

/-- The suite over residues is lawful. -/
theorem plainSuite_lawful : plainSuite.Lawful := Suite.lawful_i2048 .identity

/-- Where sampling is by rejection, the steady source draws one. -/
theorem randomScalar_serves_steady {g : PrimeGroup} {n : Nat} (hsampling : g.sampling = .reject n)
    (hone : g.IsScalar 1) (hfits : 1 < 256 ^ n) :
    g.randomScalar.Serves .steady fun k ↦ k = 1 := by
  intro e he
  have hreply : e.source e.asked n = .bytes (Bytes.ofNat n 1) := by
    rw [show e.source = .steady from he]
    rfl
  rw [PrimeGroup.runOn_randomScalar_reject hsampling hone hfits hreply]
  exact ⟨rfl, rfl⟩

/-- On the steady source the draws over residues are as they should be, wherever seeds lead. -/
theorem steady_sound_seeded (seeds : Bytes → Nat) :
    letI := Groups.seeded seeds
    Trust.steady.Sound plainSuite := by
  let := Groups.seeded seeds
  have hone : (seededGroup seeds).IsScalar 1 := isScalar_of_lt Nat.one_pos prime_order.one_lt
  have hsampling : (seededGroup seeds).sampling = .reject 28 := rfl
  have hscalar : (seededGroup seeds).randomScalar.Serves .steady (seededGroup seeds).IsScalar :=
    (randomScalar_serves_steady hsampling hone (by decide)).mono fun k hk ↦ hk ▸ hone
  constructor
  · intro n
    exact (Draw.Serves.bytes_steady n).mono fun bs hbs ↦ by rw [hbs, Bytes.length_ofNat]
  · exact hscalar
  · exact ExchangeName.randomPrivateKey_prime_serves sized_seededGroup.scalarLength_lt hscalar

/-- On the steady source the draws of the suite over residues are as they should be. -/
theorem steady_sound : Trust.steady.Sound plainSuite := steady_sound_seeded closedOfSeed

/-- Where the key of an account is not one, every password that fits behind its length has an
evaluation. -/
theorem exists_evaluation {setup : ServerSetup} (hsuite : setup.suite = plainSuite)
    {seed privateKey : Bytes} (holds : setup.Holds seed privateKey) {identifier password : Bytes}
    {key : Nat} (hkey : setup.accountKey identifier = .ok key) (hne : key ≠ 1)
    (hpassword : password.length < 256 ^ 2) :
    ∃ point randomized, Evaluation setup identifier password key point randomized := by
  obtain ⟨suite, seedSecret, keySecret, publicKey, standInKey⟩ := setup
  obtain rfl : suite = plainSuite := hsuite
  have hscalar := holds.isScalar_of_accountKey plainSuite_lawful.group hkey
  have htag : (Blinding.tag plainSuite).length < 256 ^ 2 := by decide
  obtain ⟨point, hpoint⟩ : ∃ e, plainSuite.group.hash password (Blinding.tag plainSuite) = .ok e :=
    exists_closedGroup_hash password htag
  have laws : plainSuite.group.Laws IsMember := closedGroup_laws
  obtain ⟨hmem, hpoint1⟩ := laws.mem_of_hash hpoint
  have houtput : Blinding.outputOf plainSuite password key point = .ok _ :=
    Blinding.outputOf_eq laws hmem hpassword
  exact ⟨point, _, hpoint, hkey, multiply_ne_self hmem hpoint1 hscalar hne, _, houtput, rfl⟩

private theorem any_standIn : (plainSuite.exchange.derivePrivateKey plainSuite.hash
    (plainSuite.hash.expand (Bytes.zeros 32) ServerSetup.standInKeyLabel
      plainSuite.seedLength)).toOption.any (fun _ ↦ true) = true := by
  decide +kernel

private theorem any_accountKey : (Blinding.accountKey plainSuite (Bytes.zeros 32)
    (Bytes.ofString "alice")).toOption.any (· ≠ 1) = true := by
  decide +kernel

/-- The seed of zeros and the private key of one make a setup, in which the key of an account is not
one. -/
theorem exists_setup : ∃ setup key,
    ServerSetup.make plainSuite (Bytes.zeros 32) (Bytes.ofNat 28 1) = .ok setup ∧
      setup.accountKey (Bytes.ofString "alice") = .ok key ∧ key ≠ 1 := by
  obtain ⟨standIn, hstandIn, -⟩ := Except.exists_of_any any_standIn
  obtain ⟨pk', hpk'⟩ := ExchangeName.isPrivateKey_of_derivePrivateKey plainSuite_lawful.exchange
    hstandIn
  have hone : closedGroup.IsScalar 1 := isScalar_of_lt Nat.one_pos prime_order.one_lt
  obtain ⟨pk, hpk⟩ : plainSuite.exchange.IsPrivateKey (Bytes.ofNat 28 1) :=
    ⟨_, ExchangeName.publicKey_prime_eq_ok_iff.mpr
      ⟨1, PrimeGroup.decodeScalar_ofNat hone _, rfl⟩⟩
  have hmake := ServerSetup.exists_make (s := plainSuite) (Bytes.length_zeros 32) hpk hstandIn hpk'
  obtain ⟨-, holds⟩ := ServerSetup.holds_of_make hmake
  obtain ⟨key, hkey, hne⟩ := Except.exists_of_any any_accountKey
  refine ⟨_, key, hmake, ?_, by simpa using hne⟩
  rw [holds.accountKey_eq]
  exact hkey

/-- The account's identifier and its password, as texts. -/
def alice : Phrase := .text (Units.ofString "alice")

/-- The account's password, as a text. -/
def secret : Phrase := .text (Units.ofString "secret")

theorem toBytes_alice : alice.toBytes = .ok (Bytes.ofString "alice") := by decide

theorem toBytes_secret : secret.toBytes = .ok (Bytes.ofString "secret") := by decide

/-- On the steady source the account is registered. -/
theorem exists_registered : ∃ setup record exportKey,
    ServerSetup.make plainSuite (Bytes.zeros 32) (Bytes.ofNat 28 1) = .ok setup ∧
      Registration.run setup alice secret secret {} ⟨.steady, []⟩ ⟨.steady, []⟩ =
        .ok (record, exportKey) := by
  obtain ⟨setup, key, hmake, hkey, hne⟩ := exists_setup
  obtain ⟨hsuite, holds⟩ := ServerSetup.holds_of_make hmake
  have lawful : setup.suite.Lawful := hsuite ▸ plainSuite_lawful
  have sound : Trust.steady.Sound setup.suite := hsuite ▸ steady_sound
  have hlength : (Bytes.ofString "secret").length < 256 ^ 2 := by decide
  obtain ⟨point, randomized, evaluation⟩ := exists_evaluation hsuite holds hkey hne hlength
  obtain ⟨clear, hclear⟩ : ∃ clear, Envelope.cleartext setup.publicKey {} = .ok clear :=
    Envelope.exists_cleartext_iff.mpr (by decide)
  have hserved : Served .steady _
      (Registration.run setup alice secret secret {} ⟨.steady, []⟩ ⟨.steady, []⟩) :=
    Registration.run_served lawful sound holds rfl toBytes_alice toBytes_secret evaluation hclear
      rfl rfl
  obtain ⟨⟨record, exportKey⟩, hregistered, -⟩ := hserved.exists_of_not_excused fun _ _ h ↦ h
  exact ⟨setup, record, exportKey, hmake, hregistered⟩

end Residue

end Apake
