import Apake.Proofs.Protocol.Steady
import Apake.Proofs.Server.Setup

/-!
# What a secret is expanded for

The seed of a server and a randomized password are each expanded for several purposes.  A purpose
has a label, and in most cases a subject stands in front of it: the identifier of an account or the
nonce of an envelope.  Whoever asks chooses the identifier, and no length stands before it, so it is
up to the labels to keep the purposes apart.  They do, because no two labels for one secret end in
the same four bytes.
-/

namespace Apake

/-- The last bytes of a string, or all of it if there are not as many. -/
def Bytes.ending (n : Nat) (bs : Bytes) : Bytes := bs.drop (bs.length - n)

/-- What stands in front of a string that is long enough does not change its ending. -/
theorem Bytes.ending_append {n : Nat} {b : Bytes} (h : n ≤ b.length) (a : Bytes) :
    ending n (a ++ b) = ending n b := by
  have hdrop : a.length + b.length - n = a.length + (b.length - n) := by omega
  unfold ending
  rw [List.length_append, hdrop, ← List.drop_drop, List.drop_left]

/-- How the purposes of one secret are named: by a label each, which follows a subject or stands
alone. -/
structure Labelling (ι : Type) where
  label : ι → Bytes
  follows : ι → Bool

namespace Labelling

variable {ι : Type} {l : Labelling ι} {n : Nat}

/-- The information under which a secret is expanded for a purpose and a subject. -/
def info (l : Labelling ι) (purpose : ι) (subject : Bytes) : Bytes :=
  if l.follows purpose then subject ++ l.label purpose else l.label purpose

/-- Whether the labels are told apart by their last bytes. -/
structure Apart (l : Labelling ι) (n : Nat) : Prop where
  le_length (p : ι) : n ≤ (l.label p).length
  ending_inj (p q : ι) : Bytes.ending n (l.label p) = Bytes.ending n (l.label q) → p = q

/-- Whatever the subject is, the information ends as its label does. -/
theorem Apart.ending_info (apart : l.Apart n) (p : ι) (subject : Bytes) :
    Bytes.ending n (l.info p subject) = Bytes.ending n (l.label p) := by
  unfold info
  split
  · exact Bytes.ending_append (apart.le_length p) subject
  · rfl

/-- Labels that are told apart by their endings separate all purposes, and in front of one label
nothing but the subject can make a difference. -/
theorem Apart.info_inj (apart : l.Apart n) {p q : ι} {subject subject' : Bytes}
    (h : l.info p subject = l.info q subject') :
    p = q ∧ (l.follows p = true → subject = subject') := by
  -- The endings give the purpose; in front of one label the subjects are what is left.
  have hpurpose : p = q := by
    apply apart.ending_inj
    rw [← apart.ending_info p subject, h, apart.ending_info q subject']
  subst hpurpose
  refine ⟨rfl, ?_⟩
  intro hfollows
  unfold info at h
  rw [if_pos hfollows, if_pos hfollows] at h
  exact List.append_cancel_right h

end Labelling

/-- What the seed of a server is expanded for. -/
inductive SeedPurpose
  | accountKey
  | standInMasking
  | standInEnvelope
  | standInKey
  deriving DecidableEq

namespace SeedPurpose

/-- The labels for a seed; the key of all stand-in records belongs to no identifier. -/
def labelling : Labelling SeedPurpose where
  label
    | accountKey => Blinding.accountLabel
    | standInMasking => ServerSetup.standInMaskingLabel
    | standInEnvelope => ServerSetup.standInEnvelopeLabel
    | standInKey => ServerSetup.standInKeyLabel
  follows purpose := purpose ≠ standInKey

/-- The labels for a seed differ in their last four bytes. -/
theorem labelling_apart : labelling.Apart 4 := by
  constructor
  · intro p
    cases p <;> decide
  · intro p q
    cases p <;> cases q <;> decide

variable [Groups]

/-- The size of what a seed is expanded to. -/
def size (s : Suite) : SeedPurpose → Nat
  | accountKey => s.scalarLength
  | standInMasking => s.hashLength
  | standInEnvelope => s.envelopeLength
  | standInKey => s.seedLength

/-- A seed expanded for a purpose and an identifier. -/
def expand (s : Suite) (seed : Bytes) (purpose : SeedPurpose) (identifier : Bytes) : Bytes :=
  s.hash.expand seed (labelling.info purpose identifier) (purpose.size s)

end SeedPurpose

/-- What a randomized password is expanded for. -/
inductive PasswordPurpose
  | tagKey
  | keyPad
  | exportKey
  | maskingKey
  deriving DecidableEq

namespace PasswordPurpose

/-- The labels for a randomized password; its masking key belongs to no nonce. -/
def labelling : Labelling PasswordPurpose where
  label
    | tagKey => Envelope.authLabel
    | keyPad => Envelope.padLabel
    | exportKey => Envelope.exportLabel
    | maskingKey => Envelope.maskingLabel
  follows purpose := purpose ≠ maskingKey

/-- The labels for a randomized password differ in their last four bytes. -/
theorem labelling_apart : labelling.Apart 4 := by
  constructor
  · intro p
    cases p <;> decide
  · intro p q
    cases p <;> cases q <;> decide

variable [Groups]

/-- The size of what a randomized password is expanded to. -/
def size (s : Suite) : PasswordPurpose → Nat
  | keyPad => s.privateLength
  | tagKey | exportKey | maskingKey => s.hashLength

/-- A randomized password expanded for a purpose and a nonce. -/
def expand (s : Suite) (randomized : Bytes) (purpose : PasswordPurpose) (nonce : Bytes) : Bytes :=
  s.hash.expand randomized (labelling.info purpose nonce) (purpose.size s)

end PasswordPurpose

section Expansions

variable [Groups]

/-- A stand-in record holds its setup's stand-in key and two expansions of the seed. -/
theorem ServerSetup.standIn_eq {setup : ServerSetup} {seed : Bytes}
    (hread : setup.seed.read = .ok seed) (identifier : Bytes) :
    setup.standIn identifier =
      .ok ⟨setup.suite, setup.standInKey,
        SeedPurpose.expand setup.suite seed .standInMasking identifier,
        .split setup.suite (SeedPurpose.expand setup.suite seed .standInEnvelope identifier)⟩ := by
  unfold standIn
  exact Except.bind_of_ok hread rfl

/-- Information for two expansions of a server's seed is the same only for the same purpose and,
where one is used, the same identifier; information for two expansions of a randomized password is
the same only for the same purpose and, where one is used, the same nonce.  And it is by these
expansions that account keys, stand-in records, envelopes and the keys of a client are made. -/
theorem Suite.expansions_apart (s : Suite) :
    (∀ p q identifier identifier',
      SeedPurpose.labelling.info p identifier = SeedPurpose.labelling.info q identifier' →
        p = q ∧ (SeedPurpose.labelling.follows p = true → identifier = identifier')) ∧
    (∀ p q nonce nonce',
      PasswordPurpose.labelling.info p nonce = PasswordPurpose.labelling.info q nonce' →
        p = q ∧ (PasswordPurpose.labelling.follows p = true → nonce = nonce')) ∧
    (∀ seed identifier, Blinding.accountKey s seed identifier =
      s.group.deriveScalar s.hash (SeedPurpose.expand s seed .accountKey identifier)
        Blinding.keyInfo) ∧
    (∀ (setup : ServerSetup) seed identifier, setup.suite = s → setup.seed.read = .ok seed →
      setup.standIn identifier =
        .ok ⟨s, setup.standInKey, SeedPurpose.expand s seed .standInMasking identifier,
          .split s (SeedPurpose.expand s seed .standInEnvelope identifier)⟩) ∧
    (∀ seed privateKey setup, ServerSetup.make s seed privateKey = .ok setup →
      ∃ standIn, s.exchange.derivePrivateKey s.hash (SeedPurpose.expand s seed .standInKey []) =
          .ok standIn ∧
        s.exchange.publicKey standIn = .ok setup.standInKey) ∧
    ∀ randomized nonce,
      Envelope.authKey s randomized nonce = PasswordPurpose.expand s randomized .tagKey nonce ∧
      Envelope.pad s randomized nonce = PasswordPurpose.expand s randomized .keyPad nonce ∧
      Envelope.exportKey s randomized nonce =
        PasswordPurpose.expand s randomized .exportKey nonce ∧
      Envelope.maskingKey s randomized =
        PasswordPurpose.expand s randomized .maskingKey nonce := by
  refine ⟨?_, ?_, ?_, ?_, ?_, ?_⟩
  · intro p q identifier identifier' h
    exact SeedPurpose.labelling_apart.info_inj h
  · intro p q nonce nonce' h
    exact PasswordPurpose.labelling_apart.info_inj h
  · intro seed identifier
    rfl
  · rintro setup seed identifier rfl hread
    exact ServerSetup.standIn_eq hread identifier
  · intro seed privateKey setup h
    obtain ⟨-, pk, standIn, pk', -, hderive, hpublic, rfl⟩ := ServerSetup.make_eq_ok_iff.mp h
    exact ⟨standIn, hderive, hpublic⟩
  · intro randomized nonce
    exact ⟨rfl, rfl, rfl, rfl⟩

end Expansions

attribute [local instance] Groups.closed in
/-- Over residues, for a setup that can be made: an identifier that ends in part of a label leads to
no other purpose's information, nor does the nonce of an envelope, and the stand-in record of an
account is made by the expansions. -/
theorem Suite.expansions_apart_residue :
    let s := Residue.plainSuite
    let identifier := Bytes.ofString "alice"
    let other := Bytes.ofString "aliceDummy"
    SeedPurpose.labelling.info .accountKey other ≠
      SeedPurpose.labelling.info .standInMasking identifier ∧
    SeedPurpose.labelling.info .accountKey other ≠
      SeedPurpose.labelling.info .accountKey identifier ∧
    PasswordPurpose.labelling.info .tagKey (Bytes.zeros 32) ≠
      PasswordPurpose.labelling.info .exportKey (Bytes.zeros 32) ∧
    ∃ setup standIn, ServerSetup.make s (Bytes.zeros 32) (Bytes.ofNat 28 1) = .ok setup ∧
      setup.standIn identifier =
        .ok ⟨s, setup.standInKey,
          SeedPurpose.expand s (Bytes.zeros 32) .standInMasking identifier,
          .split s (SeedPurpose.expand s (Bytes.zeros 32) .standInEnvelope identifier)⟩ ∧
      s.exchange.derivePrivateKey s.hash
        (SeedPurpose.expand s (Bytes.zeros 32) .standInKey []) = .ok standIn := by
  intro s identifier other
  obtain ⟨hseed, hpassword, -, hstandIn, hmake, -⟩ := expansions_apart s
  refine ⟨?_, ?_, ?_, ?_⟩
  · intro h
    cases (hseed _ _ _ _ h).1
  · intro h
    exact absurd ((hseed _ _ _ _ h).2 rfl) (by decide)
  · intro h
    cases (hpassword _ _ _ _ h).1
  · obtain ⟨setup, key, hsetup, -, -⟩ := Residue.exists_setup
    obtain ⟨hsuite, holds⟩ := ServerSetup.holds_of_make hsetup
    obtain ⟨standIn, hderive, -⟩ := hmake _ _ _ hsetup
    exact ⟨setup, standIn, hsetup, hstandIn setup _ identifier hsuite holds.readSeed, hderive⟩

end Apake
