import Mathlib.Data.List.Forall2
import Apake.Group.Montgomery
import Apake.Proofs.Group.KeyPair
import Apake.Proofs.Server.Setup
import Apake.Proofs.Wire.Message

/-!
# What the formats accept

Messages, records and setups are all read by one rule: the length is measured first, and then every
element and key is decoded in its place.  What is read has the pieces of the bytes as its fields and
is written as they were.
-/

namespace Apake

attribute [local instance (2000)] Zero.ofOfNat0

/-- A step has a result exactly under a condition, and fails only because bytes stand for nothing. -/
structure Decides {α : Type} (x : Except Error α) (P : Prop) : Prop where
  exists_iff : (∃ a, x = .ok a) ↔ P
  family_eq : ∀ e, x = .error e → e.family = .decoding

namespace Decides

variable {α β : Type} {x : Except Error α} {P Q : Prop}

/-- A result is there unconditionally. -/
theorem ok (a : α) : Decides (.ok a : Except Error α) True where
  exists_iff := by simp
  family_eq _ h := by cases h

/-- The condition may be put in other words. -/
theorem congr (h : Decides x P) (hiff : P ↔ Q) : Decides x Q where
  exists_iff := h.exists_iff.trans hiff
  family_eq := h.family_eq

/-- A chain has a result exactly if the conditions of both steps hold. -/
theorem bind {f : α → Except Error β} (hx : Decides x P)
    (hf : ∀ a, x = .ok a → Decides (f a) Q) : Decides (x >>= f) (P ∧ Q) := by
  cases x with
  | error err =>
    have hnot : ¬ P := fun hp ↦ by
      obtain ⟨a, ha⟩ := hx.exists_iff.mpr hp
      cases ha
    refine ⟨by simp [hnot, Bind.bind, Except.bind], fun e h ↦ ?_⟩
    cases h
    exact hx.family_eq err rfl
  | ok a =>
    have hp : P := hx.exists_iff.mp ⟨a, rfl⟩
    have hfa := hf a rfl
    exact ⟨hfa.exists_iff.trans (by simp [hp]), hfa.family_eq⟩

end Decides

namespace PrimeGroup

variable {g : PrimeGroup} {bs : Bytes}

/-- Bytes of the right size either stand for an element or for nothing. -/
theorem decides_decodeElement (name : String) (hlength : bs.length = g.elementLength) :
    Decides (g.decodeElement bs name) (∃ e, g.decodeElement bs = .ok e) where
  exists_iff := by simp only [decodeElement_eq_ok_iff]
  family_eq err h := by
    unfold decodeElement at h
    rw [if_neg (not_not_intro hlength)] at h
    split at h
    · cases h
      rfl
    · split at h
      · cases h
        rfl
      · cases h

/-- Bytes of the right size either stand for a scalar or for nothing. -/
theorem decides_decodeScalar (name : String) (hlength : bs.length = g.scalarLength) :
    Decides (g.decodeScalar bs name) (∃ k, g.decodeScalar bs name = .ok k) where
  exists_iff := Iff.rfl
  family_eq err h := by
    unfold decodeScalar at h
    rw [if_neg (not_not_intro hlength)] at h
    dsimp only at h
    split at h
    · cases h
      rfl
    · cases h

end PrimeGroup

/-- A number is written in as many bytes as its field has. -/
theorem Framing.eq_ofNat_of_number {value width : Nat} {bs : Bytes}
    (h : Framing.number value width = .ok bs) : bs = Bytes.ofNat width value := by
  unfold Framing.number at h
  split at h
  · cases h
  · split at h
    · cases h
    · split at h
      · cases h
      · split at h
        · cases h
        · cases h
          rfl

namespace ExchangeName

variable [Groups] {x : ExchangeName} {bs : Bytes}

/-- Bytes of the right size either are a public key or stand for nothing. -/
theorem decides_validatePublicKey (name : String) (hlength : bs.length = x.publicLength) :
    Decides (x.validatePublicKey bs name) (x.validatePublicKey bs = .ok ()) := by
  cases x with
  | x25519 =>
    have hok (name : String) : x25519.validatePublicKey bs name = .ok () :=
      if_neg (not_not_intro hlength)
    rw [hok, hok]
    exact (Decides.ok ()).congr (by simp)
  | prime group =>
    unfold validatePublicKey
    refine ((PrimeGroup.decides_decodeElement name hlength).bind fun e _ ↦ Decides.ok ()).congr ?_
    simp only [Except.bind_eq_ok_iff, pure, Except.pure, and_true,
      PrimeGroup.decodeElement_eq_ok_iff]

/-- Bytes of the right size either have a public key or stand for nothing. -/
theorem decides_publicKey (hlength : bs.length = x.privateLength) :
    Decides (x.publicKey bs) (x.IsPrivateKey bs) where
  exists_iff := Iff.rfl
  family_eq err h := by
    cases x with
    | x25519 =>
      have hkey : montgomeryKey bs = .ok bs := if_neg (not_not_intro hlength)
      unfold publicKey at h
      rw [hkey] at h
      cases h
    | prime group =>
      exact ((PrimeGroup.decides_decodeScalar "private key" hlength).bind
        fun k _ ↦ Decides.ok _).family_eq err h

/-- A derived private key has a public key in every group that has a scalar. -/
theorem isPrivateKey_of_derive (hpos : ∀ n, 0 < (Groups.prime n).order) {h : HashAlgorithm}
    {seed sk : Bytes} (hsk : x.derivePrivateKey h seed = .ok sk) : x.IsPrivateKey sk := by
  cases x with
  | x25519 =>
    cases hsk
    exact ⟨_, publicKey_x25519_eq_ok_iff.mpr ⟨h.length_expand _ _ 32, rfl⟩⟩
  | prime group =>
    obtain ⟨k, hk, hsk⟩ := Except.bind_eq_ok_iff.mp hsk
    have hscalar := PrimeGroup.isScalar_of_deriveScalar (hpos group) hk
    cases Framing.eq_ofNat_of_number hsk
    exact ⟨_, publicKey_prime_eq_ok_iff.mpr ⟨k, PrimeGroup.decodeScalar_ofNat hscalar _, rfl⟩⟩

end ExchangeName

/-- What a part of a format is decoded as. -/
inductive Role
  | plain
  | element
  | publicKey
  | privateKey

/-- A part of a format. -/
structure Slot where
  role : Role
  size : Nat

/-- The byte strings in a field, those of an envelope one by one. -/
def Field.leaves : Field → List Bytes
  | .bytes bs => [bs]
  | .envelope e => [e.nonce, e.encryptedKey, e.tag]

/-- The byte strings in a message, those of its envelope one by one. -/
def Message.leaves (m : Message) : List Bytes := m.fields.flatMap Field.leaves

/-- Everything that has a format of its own. -/
inductive Format
  | message (kind : MessageKind)
  | record
  | setup

/-- What is read under a format. -/
inductive Payload
  | message (m : Message)
  | record (r : Record)
  | setup (secrets : ServerSetup)

namespace Payload

/-- The format of a payload. -/
def format : Payload → Format
  | message m => .message m.kind
  | record _ => .record
  | setup _ => .setup

/-- The suite of a payload. -/
def suite : Payload → Suite
  | message m => m.suite
  | record r => r.suite
  | setup secrets => secrets.suite

/-- The byte strings in a payload. -/
def leaves : Payload → List Bytes
  | message m => m.leaves
  | record r => (Message.registrationUpload r.upload).leaves
  | setup secrets => [secrets.seed.memory, secrets.privateKey.memory]

end Payload

variable [Groups]

/-- Whether bytes are decoded on their own as what a part holds. -/
def Slot.Admits (s : Suite) (slot : Slot) (bs : Bytes) : Prop :=
  match slot.role with
  | .plain => True
  | .element => ∃ e, s.group.decodeElement bs = .ok e
  | .publicKey => s.exchange.validatePublicKey bs = .ok ()
  | .privateKey => s.exchange.IsPrivateKey bs

/-- The parts of a class in wire order, those of an envelope one by one. -/
def MessageKind.slots (s : Suite) : MessageKind → List Slot
  | registrationRequest => [⟨.element, s.elementLength⟩]
  | registrationResponse => [⟨.element, s.elementLength⟩, ⟨.publicKey, s.publicLength⟩]
  | registrationUpload =>
    [⟨.publicKey, s.publicLength⟩, ⟨.plain, s.hashLength⟩, ⟨.plain, s.nonceLength⟩,
      ⟨.plain, s.privateLength⟩, ⟨.plain, s.hashLength⟩]
  | credentialRequest =>
    [⟨.element, s.elementLength⟩, ⟨.plain, s.nonceLength⟩, ⟨.publicKey, s.publicLength⟩]
  | credentialResponse =>
    [⟨.element, s.elementLength⟩, ⟨.plain, s.nonceLength⟩, ⟨.plain, s.maskedLength⟩,
      ⟨.plain, s.nonceLength⟩, ⟨.publicKey, s.publicLength⟩, ⟨.plain, s.hashLength⟩]
  | credentialFinalization => [⟨.plain, s.hashLength⟩]

/-- The sizes of the byte strings in a message of a class. -/
def MessageKind.leafSizes (s : Suite) (k : MessageKind) : List Nat := (k.slots s).map Slot.size

namespace Format

/-- The name by which a wrong length is reported. -/
def name : Format → String
  | message k => k.name
  | record => MessageKind.registrationUpload.name
  | setup => "ServerSetup"

/-- The length of everything with a format. -/
def length (s : Suite) : Format → Nat
  | message k => k.length s
  | record => MessageKind.registrationUpload.length s
  | setup => ServerSetup.length s

/-- The parts of a format in wire order. -/
def slots (s : Suite) : Format → List Slot
  | message k => k.slots s
  | record => MessageKind.registrationUpload.slots s
  | setup => [⟨.plain, s.hashLength⟩, ⟨.privateKey, s.privateLength⟩]

/-- The pieces of a byte string at the sizes of a format. -/
def pieces (s : Suite) (f : Format) (bs : Bytes) : List Bytes :=
  Message.cut ((f.slots s).map Slot.size) bs

/-- Whether every element and key in a byte string is decoded on its own. -/
def Admits (s : Suite) (f : Format) (bs : Bytes) : Prop :=
  List.Forall₂ (Slot.Admits s) (f.slots s) (f.pieces s bs)

/-- Reads a byte string under a format. -/
def read (s : Suite) (bs : Bytes) : Format → Except Error Payload
  | message k => do return .message (← Message.ofBytes k s bs)
  | record => do return .record (← Record.ofBytes s bs)
  | setup => do return .setup (← ServerSetup.ofBytes s bs)

end Format

/-- Writes a payload. -/
def Payload.toBytes : Payload → Except Error Bytes
  | message m => m.toBytes
  | record r => r.toBytes
  | setup secrets => secrets.toBytes

namespace Message

variable {k : MessageKind} {s : Suite} {bs : Bytes}

/-- Splitting bytes of the right length gives their pieces as fields, those of an envelope
included. -/
theorem leaves_split (h : bs.length = k.length s) :
    (split k s bs).leaves = cut (k.leafSizes s) bs := by
  cases k with
  | registrationUpload =>
    let rest := (bs.drop s.publicLength).drop s.hashLength
    have hrest : rest.length = s.nonceLength + s.privateLength + s.hashLength := by
      simp only [MessageKind.length, MessageKind.sizes, List.sum_cons, List.sum_nil,
        Suite.envelopeLength] at h
      simp only [rest, List.length_drop]
      omega
    have hwhole : rest.take s.envelopeLength = rest := List.take_of_length_le hrest.le
    have htag : ((rest.drop s.nonceLength).drop s.privateLength).take s.hashLength =
        rest.drop (s.nonceLength + s.privateLength) := by
      rw [List.drop_drop]
      apply List.take_of_length_le
      rw [List.length_drop]
      omega
    show [_, _, ((rest.take s.envelopeLength).take s.nonceLength),
      (((rest.take s.envelopeLength).drop s.nonceLength).take s.privateLength),
      ((rest.take s.envelopeLength).drop (s.nonceLength + s.privateLength))] = [_, _, _, _, _]
    rw [hwhole, ← htag]
    rfl
  | _ => rfl

/-- An element and a public key behind it are decoded exactly if each of them is on its own. -/
theorem decides_elementAndKey {element key : Bytes} (name name' : String)
    (helement : element.length = s.elementLength) (hkey : key.length = s.publicLength) :
    Decides (do
        let _ ← s.group.decodeElement element name
        s.exchange.validatePublicKey key name')
      ((∃ e, s.group.decodeElement element = .ok e) ∧ s.exchange.validatePublicKey key = .ok ()) :=
  (PrimeGroup.decides_decodeElement name helement).bind fun _ _ ↦
    ExchangeName.decides_validatePublicKey name' hkey

/-- The elements and keys of a message are decoded exactly if each of them is on its own. -/
theorem decides_validate (h : bs.length = k.length s) :
    Decides (split k s bs).validate
      (List.Forall₂ (Slot.Admits s) (k.slots s) (cut (k.leafSizes s) bs)) := by
  obtain ⟨hsizes, -⟩ := cut_of_sum h
  -- The pieces have the sizes that the decoders measure, so only their contents matter.
  cases k <;> simp only [cut, MessageKind.sizes, List.map_cons, List.map_nil, List.cons.injEq]
    at hsizes
  case registrationRequest =>
    refine ((PrimeGroup.decides_decodeElement _ hsizes.1).bind fun e _ ↦ Decides.ok ()).congr ?_
    simp [MessageKind.slots, MessageKind.leafSizes, cut, Slot.Admits]
  case registrationResponse =>
    obtain ⟨helement, hkey, -⟩ := hsizes
    refine (decides_elementAndKey _ _ helement hkey).congr ?_
    simp [MessageKind.slots, MessageKind.leafSizes, cut, Slot.Admits]
  case registrationUpload =>
    refine (ExchangeName.decides_validatePublicKey _ hsizes.1).congr ?_
    simp [MessageKind.slots, MessageKind.leafSizes, cut, Slot.Admits]
  case credentialRequest =>
    obtain ⟨helement, -, hkey, -⟩ := hsizes
    refine (decides_elementAndKey _ _ helement hkey).congr ?_
    simp [MessageKind.slots, MessageKind.leafSizes, cut, Slot.Admits]
  case credentialResponse =>
    obtain ⟨helement, -, -, -, hkey, -⟩ := hsizes
    refine (decides_elementAndKey _ _ helement hkey).congr ?_
    simp [MessageKind.slots, MessageKind.leafSizes, cut, Slot.Admits]
  case credentialFinalization =>
    refine (Decides.ok ()).congr ?_
    simp [MessageKind.slots, MessageKind.leafSizes, cut, Slot.Admits]

/-- Bytes of the right length are read exactly if every element and key in them is decoded. -/
theorem decides_ofBytes (h : bs.length = k.length s) :
    Decides (ofBytes k s bs)
      (List.Forall₂ (Slot.Admits s) (k.slots s) (cut (k.leafSizes s) bs)) := by
  unfold ofBytes
  rw [if_neg (not_not_intro h)]
  exact ((decides_validate h).bind fun _ _ ↦ Decides.ok _).congr (and_iff_left trivial)

/-- What is read has the pieces of the bytes as its fields. -/
theorem leaves_of_ofBytes {m : Message} (h : ofBytes k s bs = .ok m) :
    m.leaves = cut (k.leafSizes s) bs := by
  unfold ofBytes at h
  obtain ⟨hlength, h⟩ := Except.refuseIf_eq_ok_iff.mp h
  obtain ⟨-, -, h⟩ := Except.bind_eq_ok_iff.mp h
  cases h
  exact leaves_split (Decidable.not_not.mp hlength)

/-- Bytes of another length are refused for it. -/
theorem ofBytes_of_length_ne (h : bs.length ≠ k.length s) :
    ofBytes k s bs = .error (.wrongLength k.name (k.length s) bs.length) := by
  unfold ofBytes
  rw [if_pos h]
  rfl

end Message

namespace Record

variable {s : Suite} {bs : Bytes} {r : Record}

/-- A record is read exactly if the upload is that it was made of. -/
theorem ofBytes_eq_ok_iff :
    ofBytes s bs = .ok r ↔
      Message.ofBytes .registrationUpload s bs = .ok (.registrationUpload r.upload) := by
  unfold ofBytes
  rw [Except.bind_eq_ok_iff]
  constructor
  · rintro ⟨m, hm, h⟩
    cases m with
    | registrationUpload m =>
      cases h
      exact hm
    | _ => cases h
  · intro h
    exact ⟨_, h, rfl⟩

/-- A record fails to be read as the upload does. -/
theorem ofBytes_eq_error_iff {e : Error} :
    ofBytes s bs = .error e ↔ Message.ofBytes .registrationUpload s bs = .error e := by
  unfold ofBytes
  cases h : Message.ofBytes .registrationUpload s bs with
  | error err => simp [bind, Except.bind]
  | ok m =>
    obtain ⟨hkind, -, -⟩ := Message.toBytes_of_ofBytes h
    cases m with
    | registrationUpload m => simp [bind, Except.bind, pure, Except.pure]
    | _ => cases hkind

end Record

namespace ServerSetup

variable {s : Suite} {bs : Bytes} {setup : ServerSetup}

/-- Bytes of the right length are read as a setup exactly if they end in a private key, where the
stand-in key can be derived. -/
theorem decides_ofBytes (hpos : ∀ n, 0 < (Groups.prime n).order) (h : bs.length = length s)
    {standIn : Bytes} (hstandIn : s.exchange.derivePrivateKey s.hash
      (s.hash.expand (bs.take s.hashLength) standInKeyLabel s.seedLength) = .ok standIn) :
    Decides (ofBytes s bs) (s.exchange.IsPrivateKey (bs.drop s.hashLength)) := by
  have hseed : (bs.take s.hashLength).length = s.hashLength := by
    unfold length at h
    rw [List.length_take]
    omega
  have hkey : (bs.drop s.hashLength).length = s.exchange.privateLength := by
    unfold length at h
    rw [List.length_drop, h]
    exact Nat.add_sub_cancel_left ..
  obtain ⟨standInKey, hstandInKey⟩ := ExchangeName.isPrivateKey_of_derive hpos hstandIn
  unfold ofBytes make
  rw [if_neg (not_not_intro h), if_neg (not_not_intro hseed), hstandIn]
  dsimp only [bind, Except.bind]
  rw [hstandInKey]
  exact ((ExchangeName.decides_publicKey hkey).bind fun _ _ ↦ Decides.ok _).congr
    (and_iff_left trivial)

/-- Bytes of another length are refused for it. -/
theorem ofBytes_of_length_ne (h : bs.length ≠ length s) :
    ofBytes s bs = .error (.wrongLength "ServerSetup" (length s) bs.length) := by
  unfold ofBytes
  rw [if_pos h]
  rfl

/-- Nothing follows the private key in bytes of the right length. -/
theorem take_privateLength (h : bs.length = length s) :
    (bs.drop s.hashLength).take s.privateLength = bs.drop s.hashLength := by
  apply List.take_of_length_le
  rw [List.length_drop, h]
  exact (Nat.add_sub_cancel_left ..).le

/-- What is read as a setup holds the two pieces of the bytes and is written as they were. -/
theorem toBytes_of_ofBytes (h : ofBytes s bs = .ok setup) :
    setup.suite = s ∧ setup.seed = .ofBytes (bs.take s.hashLength) ∧
      setup.privateKey = .ofBytes (bs.drop s.hashLength) ∧ setup.toBytes = .ok bs := by
  unfold ofBytes at h
  obtain ⟨-, h⟩ := Except.refuseIf_eq_ok_iff.mp h
  obtain ⟨-, pk, standIn, pk', -, -, -, rfl⟩ := make_eq_ok_iff.mp h
  exact ⟨rfl, rfl, rfl, congrArg Except.ok (List.take_append_drop ..)⟩

end ServerSetup

/-- Bytes of another length are refused for it. -/
theorem Format.read_of_length_ne {s : Suite} {f : Format} {bs : Bytes}
    (h : bs.length ≠ f.length s) :
    f.read s bs = .error (.wrongLength f.name (f.length s) bs.length) := by
  cases f with
  | message k => exact Except.bind_of_error (Message.ofBytes_of_length_ne h)
  | record =>
    exact Except.bind_of_error (Record.ofBytes_eq_error_iff.mpr (Message.ofBytes_of_length_ne h))
  | setup => exact Except.bind_of_error (ServerSetup.ofBytes_of_length_ne h)

/-- Bytes of the right length are read exactly if every element and key in them is decoded on its
own. -/
theorem Format.decides_read {s : Suite} {f : Format} {bs : Bytes}
    (hpos : ∀ n, 0 < (Groups.prime n).order)
    (hstandIn : f = .setup → ∃ sk, s.exchange.derivePrivateKey s.hash
      (s.hash.expand (bs.take s.hashLength) ServerSetup.standInKeyLabel s.seedLength) = .ok sk)
    (h : bs.length = f.length s) : Decides (f.read s bs) (f.Admits s bs) := by
  cases f with
  | message k =>
    exact ((Message.decides_ofBytes h).bind fun _ _ ↦ Decides.ok _).congr (and_iff_left trivial)
  | record =>
    have hupload := Message.decides_ofBytes (k := .registrationUpload) h
    have hrecord : Decides (Record.ofBytes s bs) (Format.record.Admits s bs) := by
      refine ⟨?_, fun e he ↦ hupload.family_eq e (Record.ofBytes_eq_error_iff.mp he)⟩
      refine Iff.trans ?_ hupload.exists_iff
      constructor
      · rintro ⟨r, hr⟩
        exact ⟨_, Record.ofBytes_eq_ok_iff.mp hr⟩
      · rintro ⟨m, hm⟩
        obtain ⟨hkind, -, -⟩ := Message.toBytes_of_ofBytes hm
        cases m with
        | registrationUpload m => exact ⟨⟨m⟩, Record.ofBytes_eq_ok_iff.mpr hm⟩
        | _ => cases hkind
    exact (hrecord.bind fun _ _ ↦ Decides.ok _).congr (and_iff_left trivial)
  | setup =>
    obtain ⟨standIn, hstandIn⟩ := hstandIn rfl
    refine ((ServerSetup.decides_ofBytes hpos h hstandIn).bind fun _ _ ↦ Decides.ok _).congr ?_
    simp only [Format.Admits, Format.pieces, Format.slots, List.map_cons, List.map_nil,
      Message.cut, ServerSetup.take_privateLength h, List.forall₂_cons, Slot.Admits, true_and,
      and_true, List.Forall₂.nil]

/-- What is read under a format is of this format and of the suite that was asked for, holds the
pieces of the bytes one after the other, and is written as they were. -/
theorem Format.leaves_of_read {s : Suite} {f : Format} {bs : Bytes} {p : Payload}
    (h : f.read s bs = .ok p) :
    p.format = f ∧ p.suite = s ∧ p.leaves = f.pieces s bs ∧ p.toBytes = .ok bs := by
  cases f with
  | message k =>
    obtain ⟨m, hm, h⟩ := Except.bind_eq_ok_iff.mp h
    cases h
    obtain ⟨hkind, hsuite, hbytes⟩ := Message.toBytes_of_ofBytes hm
    exact ⟨congrArg Format.message hkind, hsuite, Message.leaves_of_ofBytes hm, hbytes⟩
  | record =>
    obtain ⟨r, hr, h⟩ := Except.bind_eq_ok_iff.mp h
    cases h
    have hm := Record.ofBytes_eq_ok_iff.mp hr
    obtain ⟨-, hsuite, hbytes⟩ := Message.toBytes_of_ofBytes hm
    exact ⟨rfl, hsuite, Message.leaves_of_ofBytes hm, hbytes⟩
  | setup =>
    obtain ⟨secrets, hsecrets, h⟩ := Except.bind_eq_ok_iff.mp h
    cases h
    have hlength : bs.length = ServerSetup.length s := by
      unfold ServerSetup.ofBytes at hsecrets
      exact Decidable.not_not.mp (Except.refuseIf_eq_ok_iff.mp hsecrets).1
    obtain ⟨hsuite, hseed, hkey, hbytes⟩ := ServerSetup.toBytes_of_ofBytes hsecrets
    refine ⟨rfl, hsuite, ?_, hbytes⟩
    show [secrets.seed.memory, secrets.privateKey.memory] = _
    rw [hseed, hkey]
    simp only [Format.pieces, Format.slots, List.map_cons, List.map_nil, Message.cut,
      ServerSetup.take_privateLength hlength]
    rfl

/-- A format accepts exactly the byte strings of its length in which every element and key is
decoded on its own, tells a wrong length from wrong contents, and loses nothing of what it accepts.
For a setup the stand-in key must be derivable. -/
theorem Format.read_exact (f : Format) (s : Suite) (bs : Bytes)
    (hpos : ∀ n, 0 < (Groups.prime n).order)
    (hstandIn : f = .setup → ∃ sk, s.exchange.derivePrivateKey s.hash
      (s.hash.expand (bs.take s.hashLength) ServerSetup.standInKeyLabel s.seedLength) = .ok sk) :
    ((∃ e, f.read s bs = .error e ∧ e.family = .length) ↔ bs.length ≠ f.length s) ∧
      (bs.length ≠ f.length s →
        f.read s bs = .error (.wrongLength f.name (f.length s) bs.length)) ∧
      (bs.length = f.length s →
        ((∃ p, f.read s bs = .ok p) ↔ f.Admits s bs) ∧
          (¬ f.Admits s bs → ∃ e, f.read s bs = .error e ∧ e.family = .decoding)) ∧
      ∀ p, f.read s bs = .ok p →
        p.format = f ∧ p.suite = s ∧ p.leaves = f.pieces s bs ∧ p.toBytes = .ok bs := by
  have hdecides (h : bs.length = f.length s) := f.decides_read hpos hstandIn h
  refine ⟨⟨?_, fun h ↦ ⟨_, Format.read_of_length_ne h, rfl⟩⟩, Format.read_of_length_ne,
    fun h ↦ ⟨(hdecides h).exists_iff, fun hnot ↦ ?_⟩, fun p ↦ Format.leaves_of_read⟩
  · rintro ⟨e, he, hfamily⟩ hlength
    rw [(hdecides hlength).family_eq e he] at hfamily
    cases hfamily
  · cases hread : f.read s bs with
    | ok p => exact absurd ((hdecides h).exists_iff.mp ⟨p, hread⟩) hnot
    | error e => exact ⟨e, rfl, (hdecides h).family_eq e hread⟩

omit [Groups] in
/-- In the default suite any 64 bytes are a setup of two halves. -/
theorem Format.read_exact_setup :
    letI := Groups.standard
    let s := Suite.default
    let bs := Bytes.zeros 64
    (∀ n, 0 < (Groups.prime n).order) ∧
      (∃ sk, s.exchange.derivePrivateKey s.hash
        (s.hash.expand (bs.take s.hashLength) ServerSetup.standInKeyLabel s.seedLength) = .ok sk) ∧
      Format.setup.Admits s bs ∧
      ∃ p, Format.setup.read s bs = .ok p ∧ p.leaves = [Bytes.zeros 32, Bytes.zeros 32] ∧
        p.toBytes = .ok bs := by
  let := Groups.standard
  intro s bs
  have hpos : ∀ n, 0 < (Groups.prime n).order := by
    intro n
    cases n <;> decide
  have hstandIn : ∃ sk, s.exchange.derivePrivateKey s.hash
      (s.hash.expand (bs.take s.hashLength) ServerSetup.standInKeyLabel s.seedLength) = .ok sk :=
    ⟨_, rfl⟩
  have hadmits : Format.setup.Admits s bs :=
    .cons trivial <| .cons ⟨_, ExchangeName.publicKey_x25519_eq_ok_iff.mpr ⟨rfl, rfl⟩⟩ .nil
  obtain ⟨-, -, hread, hkept⟩ := Format.read_exact .setup s bs hpos fun _ ↦ hstandIn
  obtain ⟨p, hp⟩ := (hread rfl).1.mpr hadmits
  obtain ⟨-, -, hleaves, hbytes⟩ := hkept p hp
  exact ⟨hpos, hstandIn, hadmits, p, hp, hleaves, hbytes⟩

end Apake
