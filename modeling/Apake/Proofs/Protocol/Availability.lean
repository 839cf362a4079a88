import Apake.Proofs.Group.Montgomery
import Apake.Proofs.Group.Sizes
import Apake.Proofs.Protocol.Delivery
import Apake.Proofs.Protocol.Steady
import Apake.Proofs.Wire.Format

/-!
# When the server answers a login

A request and a record that were read can keep the server from answering in one way only: on the
Montgomery curve every string of the right size is a public key, but one with which the shared value
is zero is refused.  So an account whose record holds such a key cannot log in, where an unknown
account is answered.
-/

namespace Apake

section Answer

variable [Groups]

namespace ExchangeName

variable {x : ExchangeName} {sk pk : Bytes} {name : String}

/-- Whether a public key is refused although it was read: on the Montgomery curve, where the shared
value is zero. -/
def Refuses (x : ExchangeName) (sk pk : Bytes) : Prop :=
  x = .x25519 ∧ Groups.x25519 sk pk = Bytes.zeros 32

/-- A valid public key has its size. -/
theorem length_of_validatePublicKey (h : x.validatePublicKey pk name = .ok ()) :
    pk.length = x.publicLength := by
  cases x with
  | x25519 =>
    by_cases hlength : pk.length = 32
    · exact hlength
    · have hrefused : x25519.validatePublicKey pk name = .error (.wrongLength name 32 pk.length) :=
        if_pos hlength
      rw [h] at hrefused
      cases hrefused
  | prime group =>
    obtain ⟨e, he, -⟩ := Except.bind_eq_ok_iff.mp h
    exact (PrimeGroup.decodeElement_eq_ok_iff.mp he).1

/-- A private key and a valid public key have a shared value, unless that would be refused. -/
theorem diffieHellman_of_valid (hsk : x.IsPrivateKey sk)
    (hpk : x.validatePublicKey pk name = .ok ()) :
    (x.Refuses sk pk ∧
        x.diffieHellman sk pk = .error (.malformed "peer public key" .noSharedKey)) ∨
      (¬ x.Refuses sk pk ∧ ∃ shared, x.diffieHellman sk pk = .ok shared) := by
  obtain ⟨own, hown⟩ := hsk
  cases x with
  | x25519 =>
    obtain ⟨hsk, -⟩ := publicKey_x25519_eq_ok_iff.mp hown
    have hlength : pk.length = 32 := length_of_validatePublicKey hpk
    by_cases hzero : Groups.x25519 sk pk = Bytes.zeros 32
    · have hvalid : x25519.validatePublicKey pk = .ok () := if_neg (not_not_intro hlength)
      have hrefused : x25519.diffieHellman sk pk =
          .error (.malformed "peer public key" .noSharedKey) :=
        Except.bind_of_ok hvalid <| (if_neg (not_not_intro hsk)).trans (if_pos hzero)
      exact .inl ⟨⟨rfl, hzero⟩, hrefused⟩
    · exact .inr ⟨fun h ↦ hzero h.2, _, diffieHellman_x25519 hsk hlength hzero⟩
  | prime group =>
    obtain ⟨k, hk, -⟩ := publicKey_prime_eq_ok_iff.mp hown
    obtain ⟨e, he, -⟩ := Except.bind_eq_ok_iff.mp hpk
    have he : (Groups.prime group).decodeElement pk "peer public key" = .ok e :=
      PrimeGroup.decodeElement_eq_ok_iff.mpr (PrimeGroup.decodeElement_eq_ok_iff.mp he)
    have hprime : ¬ (prime group).Refuses sk pk := fun h ↦ nomatch h.1
    exact .inr ⟨hprime, _, diffieHellman_prime hk he⟩

/-- A public key with which there is a shared value is not refused. -/
theorem not_refuses_of_diffieHellman {shared : Bytes} (h : x.diffieHellman sk pk = .ok shared) :
    ¬ x.Refuses sk pk := by
  rintro ⟨rfl, hzero⟩
  obtain ⟨-, -, h⟩ := Except.bind_eq_ok_iff.mp h
  dsimp only at h
  rw [if_pos hzero] at h
  split at h <;> cases h

end ExchangeName

namespace SessionKeys

variable {s : Suite} {fresh static clientStatic clientFresh : Bytes} {name name' : String}

/-- Whether the server's part of the handshake is refused: if one of the three shared values is. -/
def Refuses (s : Suite) (fresh static clientStatic clientFresh : Bytes) : Prop :=
  s.exchange.Refuses fresh clientFresh ∨ s.exchange.Refuses static clientFresh ∨
    s.exchange.Refuses fresh clientStatic

/-- The server has its shared values with valid public keys, unless one would be refused. -/
theorem serverShared_of_valid (hfresh : s.exchange.IsPrivateKey fresh)
    (hstatic : s.exchange.IsPrivateKey static)
    (hclientStatic : s.exchange.validatePublicKey clientStatic name = .ok ())
    (hclientFresh : s.exchange.validatePublicKey clientFresh name' = .ok ()) :
    (Refuses s fresh static clientStatic clientFresh ∧
        serverShared s fresh static clientStatic clientFresh =
          .error (.malformed "peer public key" .noSharedKey)) ∨
      (¬ Refuses s fresh static clientStatic clientFresh ∧
        ∃ shared, serverShared s fresh static clientStatic clientFresh = .ok shared) := by
  unfold serverShared Refuses
  obtain ⟨ha, hrun⟩ | ⟨ha, a, hrun⟩ := ExchangeName.diffieHellman_of_valid hfresh hclientFresh
  · exact .inl ⟨.inl ha, Except.bind_of_error hrun⟩
  obtain ⟨hb, hrun'⟩ | ⟨hb, b, hrun'⟩ := ExchangeName.diffieHellman_of_valid hstatic hclientFresh
  · exact .inl ⟨.inr (.inl hb), Except.bind_of_ok hrun (Except.bind_of_error hrun')⟩
  obtain ⟨hc, hrun''⟩ | ⟨hc, c, hrun''⟩ :=
    ExchangeName.diffieHellman_of_valid hfresh hclientStatic
  · exact .inl ⟨.inr (.inr hc),
      Except.bind_of_ok hrun <| Except.bind_of_ok hrun' <| Except.bind_of_error hrun''⟩
  · exact .inr ⟨by simp only [ha, hb, hc, or_self, not_false_eq_true],
      _, Except.bind_of_ok hrun <| Except.bind_of_ok hrun' <| Except.bind_of_ok hrun'' rfl⟩

/-- Where the server has shared values, its own keys are not refused with the client's fresh one. -/
theorem not_refuses_of_serverShared {shared : Bytes}
    (h : serverShared s fresh static clientStatic clientFresh = .ok shared) :
    ¬ s.exchange.Refuses fresh clientFresh ∧ ¬ s.exchange.Refuses static clientFresh := by
  obtain ⟨a, ha, h⟩ := Except.bind_eq_ok_iff.mp h
  obtain ⟨b, hb, -⟩ := Except.bind_eq_ok_iff.mp h
  exact ⟨ExchangeName.not_refuses_of_diffieHellman ha, ExchangeName.not_refuses_of_diffieHellman hb⟩

end SessionKeys

namespace Login

variable {setup : ServerSetup} {seed privateKey identifier : Bytes} {params : LoginParameters}
  {request : CredentialRequest} {upload : RegistrationUpload} {e e' : Entropy}

/-- The private key that the server draws for a login, which comes after two nonces. -/
def freshKey (s : Suite) : Draw Bytes := do
  let _ ← Draw.bytes s.nonceLength
  let _ ← Draw.bytes s.nonceLength
  s.exchange.randomPrivateKey

/-- A request and an upload whose elements and keys are valid in the suite of a server. -/
structure Admissible (setup : ServerSetup) (upload : RegistrationUpload)
    (request : CredentialRequest) : Prop where
  blinded : ∃ e, setup.suite.group.decodeElement request.blindedMessage "blinded message" = .ok e
  keyshare : setup.suite.exchange.validatePublicKey request.clientKeyshare "client keyshare" =
    .ok ()
  wire : ∃ bs, (Message.credentialRequest request).toBytes = .ok bs
  clientKey : setup.suite.exchange.validatePublicKey upload.clientPublicKey "client public key" =
    .ok ()

/-- A request and a record that were read are admissible. -/
theorem admissible_of_ofBytes {s : Suite} {requestBytes recordBytes : Bytes} {record : Record}
    (hsuite : setup.suite = s)
    (hrequest : Message.ofBytes .credentialRequest s requestBytes =
      .ok (.credentialRequest request))
    (hrecord : Record.ofBytes s recordBytes = .ok record) :
    request.suite = setup.suite ∧ record.upload.suite = setup.suite ∧
      Admissible setup record.upload request := by
  subst hsuite
  have hupload := Record.ofBytes_eq_ok_iff.mp hrecord
  obtain ⟨-, hsuite, hwire⟩ := Message.toBytes_of_ofBytes hrequest
  obtain ⟨-, hsuite', -⟩ := Message.toBytes_of_ofBytes hupload
  have hsuite : request.suite = setup.suite := hsuite
  have hsuite' : record.upload.suite = setup.suite := hsuite'
  obtain ⟨blinded, hblinded, hkeyshare⟩ :=
    Except.bind_eq_ok_iff.mp (Message.validate_of_ofBytes hrequest)
  have hclientKey : record.upload.suite.exchange.validatePublicKey record.upload.clientPublicKey
      "client public key" = .ok () := Message.validate_of_ofBytes hupload
  rw [hsuite'] at hclientKey
  exact ⟨hsuite, hsuite', ⟨hsuite ▸ ⟨blinded, hblinded⟩, hsuite ▸ hkeyshare, ⟨_, hwire⟩,
    hclientKey⟩⟩

/-- The server has a fresh key, unless the source fails or has it search for one without end. -/
theorem freshKey_serves (sized : Groups.Sized) (s : Suite) :
    (freshKey s).Serves (.anySource s.exchange.Searches) s.exchange.IsPrivateKey :=
  (Draw.Serves.bytes _).bind fun _ _ ↦ (Draw.Serves.bytes _).bind fun _ _ ↦
    sized.randomPrivateKey_serves s.exchange id

/-- A server that has answered has drawn a fresh key and has had its shared values. -/
theorem exists_freshKey_of_respond {x : CredentialResponse × ServerLoginState}
    (holds : setup.Holds seed privateKey)
    (h : (respond setup upload request identifier params).runOn e = (.ok x, e')) :
    ∃ fresh shared, ((freshKey setup.suite).runOn e).1 = .ok fresh ∧
      SessionKeys.serverShared setup.suite fresh privateKey upload.clientPublicKey
        request.clientKeyshare = .ok shared := by
  obtain ⟨blinded, -, h⟩ := Draw.runOn_lift_bind_eq_ok_iff.mp h
  obtain ⟨-, -, h⟩ := Draw.runOn_lift_bind_eq_ok_iff.mp h
  obtain ⟨key, -, h⟩ := Draw.runOn_lift_bind_eq_ok_iff.mp h
  obtain ⟨maskingNonce, e₁, hmaskingNonce, h⟩ := Draw.runOn_bind_eq_ok_iff.mp h
  obtain ⟨masked, -, h⟩ := Draw.runOn_lift_bind_eq_ok_iff.mp h
  obtain ⟨serverNonce, e₂, hserverNonce, h⟩ := Draw.runOn_bind_eq_ok_iff.mp h
  obtain ⟨fresh, e₃, hfresh, h⟩ := Draw.runOn_bind_eq_ok_iff.mp h
  obtain ⟨keyshare, -, h⟩ := Draw.runOn_lift_bind_eq_ok_iff.mp h
  obtain ⟨wire, -, h⟩ := Draw.runOn_lift_bind_eq_ok_iff.mp h
  obtain ⟨transcript, -, h⟩ := Draw.runOn_lift_bind_eq_ok_iff.mp h
  obtain ⟨sk, hsk, h⟩ := Draw.runOn_lift_bind_eq_ok_iff.mp h
  obtain ⟨shared, hshared, -⟩ := Draw.runOn_lift_bind_eq_ok_iff.mp h
  cases hsk.symm.trans holds.readPrivateKey
  have hdrawn : (freshKey setup.suite).runOn e = (.ok fresh, e₃) :=
    Draw.runOn_bind_of_ok hmaskingNonce <| Draw.runOn_bind_of_ok hserverNonce hfresh
  exact ⟨fresh, shared, by rw [hdrawn], hshared⟩

section Respond

variable (sized : Groups.Sized) (holds : setup.Holds seed privateKey)
  (admissible : Admissible setup upload request) {key : Nat}
  (hkey : setup.accountKey identifier = .ok key)

include sized holds admissible hkey

/-- Where the server does not come to have its fresh key, the answer goes as that draw does. -/
theorem respond_of_freshKey_error {err : Error}
    (h : ((freshKey setup.suite).runOn e).1 = .error err) :
    ((respond setup upload request identifier params).runOn e).1 = .error err := by
  obtain ⟨blinded, hblinded⟩ := admissible.blinded
  have hpublic := sized.length_publicKey holds.publicKey
  unfold respond
  unfold freshKey at h
  rw [Draw.runOn_lift_bind_of_ok hblinded <| Draw.runOn_lift_bind_of_ok admissible.keyshare <|
    Draw.runOn_lift_bind_of_ok hkey rfl]
  rcases hfirst : (Draw.bytes setup.suite.nonceLength).runOn e with ⟨x | maskingNonce, e₁⟩
  · rw [Draw.runOn_bind_of_error hfirst] at h ⊢
    cases h
    rfl
  rw [Draw.runOn_bind_of_ok hfirst rfl] at h ⊢
  obtain ⟨masked, hmasked, -⟩ := Masking.exists_mask hpublic upload.maskingKey maskingNonce
    upload.envelope
  rw [Draw.runOn_lift_bind_of_ok hmasked rfl]
  rcases hsecond : (Draw.bytes setup.suite.nonceLength).runOn e₁ with ⟨x | serverNonce, e₂⟩
  · rw [Draw.runOn_bind_of_error hsecond] at h ⊢
    cases h
    rfl
  rw [Draw.runOn_bind_of_ok hsecond rfl] at h ⊢
  rw [Draw.runOn_bind_of_error (Draw.runOn_of_fst h)]

/-- Once the server has its fresh key, nothing apart from its shared values can keep it from
answering. -/
theorem exists_runOn_respond_eq (hcontext : params.context.length < 256 ^ 2)
    (hclient : (params.identifiers.client.getD []).length < 256 ^ 2)
    (hserver : (params.identifiers.server.getD []).length < 256 ^ 2) {fresh : Bytes}
    (h : (freshKey setup.suite).runOn e = (.ok fresh, e')) :
    ∃ f : Bytes → CredentialResponse × ServerLoginState,
      (respond setup upload request identifier params).runOn e =
        ((SessionKeys.serverShared setup.suite fresh privateKey upload.clientPublicKey
          request.clientKeyshare).map f, e') := by
  obtain ⟨maskingNonce, e₁, hmaskingNonce, h⟩ := Draw.runOn_bind_eq_ok_iff.mp h
  obtain ⟨serverNonce, e₂, hserverNonce, h⟩ := Draw.runOn_bind_eq_ok_iff.mp h
  obtain ⟨keyshare, hkeyshare⟩ : setup.suite.exchange.IsPrivateKey fresh :=
    (sized.randomPrivateKey_serves _ id).of_runOn trivial h
  obtain ⟨blinded, hblinded⟩ := admissible.blinded
  obtain ⟨wire, hwire⟩ := admissible.wire
  have hpublic := sized.length_publicKey holds.publicKey
  have hupload := ExchangeName.length_of_validatePublicKey admissible.clientKey
  have hwidth := sized.publicLength_lt setup.suite.exchange
  obtain ⟨masked, hmasked, -⟩ := Masking.exists_mask hpublic upload.maskingKey maskingNonce
    upload.envelope
  let parts (mac : Bytes) : CredentialResponse :=
    ⟨setup.suite, setup.suite.group.encode (Blinding.evaluate setup.suite blinded key),
      maskingNonce, masked, serverNonce, keyshare, mac⟩
  have hfits : (transcriptOf params upload.clientPublicKey setup.publicKey wire (parts [])).Fits :=
    ⟨hcontext, length_identity_lt hclient (by omega), length_identity_lt hserver (by omega)⟩
  obtain ⟨transcript, htranscript⟩ := hfits.exists_toBytes
  let keys (shared : Bytes) := SessionKeys.keysOf setup.suite shared transcript
  let mac (shared : Bytes) := (keys shared).confirmServer setup.suite transcript
  refine ⟨fun shared ↦ (parts (mac shared), { suite := setup.suite, content :=
    ⟨.ofBytes ((keys shared).confirmClient setup.suite transcript (mac shared)),
      .ofBytes (keys shared).session⟩ }), ?_⟩
  refine Draw.runOn_lift_bind_of_ok hblinded <| Draw.runOn_lift_bind_of_ok admissible.keyshare <|
    Draw.runOn_lift_bind_of_ok hkey <| Draw.runOn_bind_of_ok hmaskingNonce <|
    Draw.runOn_lift_bind_of_ok hmasked <| Draw.runOn_bind_of_ok hserverNonce <|
    Draw.runOn_bind_of_ok h <| Draw.runOn_lift_bind_of_ok hkeyshare <|
    Draw.runOn_lift_bind_of_ok hwire <| Draw.runOn_lift_bind_of_ok htranscript <|
    Draw.runOn_lift_bind_of_ok holds.readPrivateKey ?_
  cases SessionKeys.serverShared setup.suite fresh privateKey upload.clientPublicKey
      request.clientKeyshare with
  | error err => exact Draw.runOn_lift_bind_of_error rfl
  | ok shared =>
    exact Draw.runOn_lift_bind_of_ok rfl <|
      Draw.runOn_lift_bind_of_ok (SessionKeys.derive_eq _ _) rfl

/-- Once the server has its fresh key, whether it answers with an upload hangs on its shared values
alone. -/
theorem answer_of_freshKey {record : Option Item}
    (hsuite : request.suite.same setup.suite = true)
    (hupload : uploadOf record identifier setup = .ok upload) (params : LoginParameters)
    (hcontext : params.context.length < 256 ^ 2)
    (hclient : (params.identifiers.client.getD []).length < 256 ^ 2)
    (hserver : (params.identifiers.server.getD []).length < 256 ^ 2) {fresh : Bytes}
    (h : ((freshKey setup.suite).runOn e).1 = .ok fresh) :
    let outcome := ((answer (.message (.credentialRequest request)) record identifier setup
      params).runOn e).1
    let refuses := SessionKeys.Refuses setup.suite fresh privateKey upload.clientPublicKey
      request.clientKeyshare
    (refuses → outcome = .error (.malformed "peer public key" .noSharedKey)) ∧
      (¬ refuses → ∃ x, outcome = .ok x) := by
  have hstatic : setup.suite.exchange.IsPrivateKey privateKey := ⟨_, holds.publicKey⟩
  have hfresh : setup.suite.exchange.IsPrivateKey fresh :=
    (freshKey_serves sized setup.suite).of_runOn trivial (Draw.runOn_of_fst h)
  obtain ⟨f, hrespond⟩ := exists_runOn_respond_eq sized holds admissible hkey hcontext hclient
    hserver (Draw.runOn_of_fst h)
  rw [runOn_answer_of_upload hsuite hupload, hrespond]
  obtain ⟨hrefuses, hshared⟩ | ⟨hrefuses, shared, hshared⟩ := SessionKeys.serverShared_of_valid
    hfresh hstatic admissible.clientKey admissible.keyshare
  · rw [hshared]
    exact ⟨fun _ ↦ rfl, fun hnot ↦ absurd hrefuses hnot⟩
  · rw [hshared]
    exact ⟨fun h ↦ absurd h hrefuses, fun _ ↦ ⟨f shared, rfl⟩⟩

end Respond

/-- With everything that it is given read from bytes, the server answers, unless the source fails or
has it search for its fresh key without end, or one of the three shared values is refused, which can
only be on the Montgomery curve.  Where an unknown account is answered, only the client key of the
record can be to blame. -/
theorem answer_of_ofBytes (sized : Groups.Sized) {s : Suite} {requestBytes recordBytes : Bytes}
    {record : Record} {key : Nat} (hmake : ServerSetup.make s seed privateKey = .ok setup)
    (hrecord : Record.ofBytes s recordBytes = .ok record)
    (hrequest : Message.ofBytes .credentialRequest s requestBytes =
      .ok (.credentialRequest request))
    (hkey : setup.accountKey identifier = .ok key) (params : LoginParameters)
    (hcontext : params.context.length ≤ 65535)
    (hclient : (params.identifiers.client.getD []).length ≤ 65535)
    (hserver : (params.identifiers.server.getD []).length ≤ 65535) (e : Entropy) :
    let outcome (record : Option Item) := ((answer (.message (.credentialRequest request)) record
      identifier setup params).runOn e).1
    let clientKey := record.upload.clientPublicKey
    (∀ err, ((freshKey s).runOn e).1 = .error err →
        outcome (some (.record record)) = .error err ∧
          (err.family = .randomness ∨ (err = .endless ∧ s.exchange.Searches))) ∧
      ∀ fresh, ((freshKey s).runOn e).1 = .ok fresh →
        (SessionKeys.Refuses s fresh privateKey clientKey request.clientKeyshare →
          outcome (some (.record record)) = .error (.malformed "peer public key" .noSharedKey)) ∧
        (¬ SessionKeys.Refuses s fresh privateKey clientKey request.clientKeyshare →
          ∃ x, outcome (some (.record record)) = .ok x) ∧
        (s.exchange ≠ .x25519 → ∃ x, outcome (some (.record record)) = .ok x) ∧
        (∀ x, outcome none = .ok x → ¬ s.exchange.Refuses fresh clientKey →
          ∃ y, outcome (some (.record record)) = .ok y) := by
  obtain ⟨hsuite, holds⟩ := ServerSetup.holds_of_make hmake
  obtain ⟨hsuite', hsuite'', admissible⟩ := admissible_of_ofBytes hsuite hrequest hrecord
  subst hsuite
  have hupload : uploadOf (some (.record record)) identifier setup = .ok record.upload :=
    uploadOf_record (Suite.same_of_eq hsuite'')
  intro outcome clientKey
  refine ⟨fun err herr ↦ ⟨?_, ?_⟩, fun fresh hfresh ↦ ?_⟩
  · have houtcome : outcome (some (.record record)) = _ :=
      congrArg Prod.fst (runOn_answer_of_upload (Suite.same_of_eq hsuite') hupload e)
    exact houtcome.trans (respond_of_freshKey_error sized holds admissible hkey herr)
  · have hserved := (freshKey_serves sized setup.suite).served (e := e) trivial
    rw [herr] at hserved
    exact hserved
  have hfits {n : Nat} (h : n ≤ 65535) : n < 256 ^ 2 := Nat.lt_of_le_of_lt h (by decide)
  obtain ⟨hrefused, hreturns⟩ := answer_of_freshKey sized holds admissible hkey
    (Suite.same_of_eq hsuite') hupload params (hfits hcontext) (hfits hclient) (hfits hserver) hfresh
  refine ⟨hrefused, hreturns, fun hprime ↦ hreturns ?_, fun x hx hclientKey ↦ hreturns ?_⟩
  · rintro (h | h | h) <;> exact hprime h.1
  · obtain ⟨standIn, -, -, hx⟩ := runOn_answer_eq_ok_iff.mp (Draw.runOn_of_fst hx)
    obtain ⟨fresh', shared, hfresh', hshared⟩ := exists_freshKey_of_respond holds hx
    cases hfresh.symm.trans hfresh'
    obtain ⟨hfirst, hsecond⟩ := SessionKeys.not_refuses_of_serverShared hshared
    rintro (h | h | h)
    · exact hfirst h
    · exact hsecond h
    · exact hclientKey h

end Login

end Answer

/-! ### Keys on the Montgomery curve -/

namespace Login

section Montgomery

attribute [local instance] Groups.standard

/-- A record that holds a client key and zeros. -/
def recordOf (clientKey : Bytes) : Record :=
  ⟨⟨.default, clientKey, Bytes.zeros 32, ⟨Bytes.zeros 32, Bytes.zeros 32, Bytes.zeros 32⟩⟩⟩

/-- A request with the generators of both groups for its element and its key. -/
def baseRequest : CredentialRequest :=
  ⟨.default, Edwards.Point.base.encode, Bytes.zeros 32, ExchangeName.basePoint⟩

/-- Every string of 32 bytes is a public key on the Montgomery curve. -/
theorem isPublicKey_of_length {pk : Bytes} (h : pk.length = 32) : Suite.default.IsPublicKey pk :=
  ⟨h, fun _ ↦ if_neg (not_not_intro h)⟩

/-- So a record with any such string is read. -/
theorem exists_ofBytes_recordOf {pk : Bytes} (h : pk.length = 32) :
    ∃ bs, Record.ofBytes .default bs = .ok (recordOf pk) := by
  have hfits : (recordOf pk).upload.envelope.Fits .default := ⟨rfl, rfl, rfl⟩
  obtain ⟨bs, -, hread⟩ := Message.arrives_registrationUpload (m := (recordOf pk).upload)
    (isPublicKey_of_length h) (Bytes.length_zeros 32) hfits
  exact ⟨bs, Record.ofBytes_eq_ok_iff.mpr hread⟩

/-- A key of coordinate zero locks its account: whatever the source and the request are, the server
does not answer. -/
theorem answer_ne_ok_of_zero_key {setup : ServerSetup} {seed privateKey identifier : Bytes}
    (holds : setup.Holds seed privateKey) (hexchange : setup.suite.exchange = .x25519)
    {record : Record} (hzero : record.upload.clientPublicKey = Bytes.zeros 32)
    (request : CredentialRequest) (params : LoginParameters) (e : Entropy)
    (x : CredentialResponse × ServerLoginState) :
    ((answer (.message (.credentialRequest request)) (some (.record record)) identifier setup
      params).runOn e).1 ≠ .ok x := by
  intro h
  obtain ⟨upload, -, hupload, hrespond⟩ := runOn_answer_eq_ok_iff.mp (Draw.runOn_of_fst h)
  obtain ⟨r, hr, hupload⟩ := Except.bind_eq_ok_iff.mp hupload
  obtain ⟨-, hupload⟩ := Except.refuseIf_eq_ok_iff.mp hupload
  cases hr
  cases hupload
  obtain ⟨fresh, shared, -, hshared⟩ := exists_freshKey_of_respond holds hrespond
  obtain ⟨_, -, hshared⟩ := Except.bind_eq_ok_iff.mp hshared
  obtain ⟨_, -, hshared⟩ := Except.bind_eq_ok_iff.mp hshared
  obtain ⟨_, hthird, -⟩ := Except.bind_eq_ok_iff.mp hshared
  refine ExchangeName.not_refuses_of_diffieHellman hthird ⟨hexchange, ?_⟩
  rw [hzero]
  exact Montgomery.multiply_zeros fresh

/-- What the evaluation of the concrete keys comes to: the request's element is read, the account
has a key, and the values that the server shares with keys other than zero are not zero. -/
private theorem evaluated :
    (Edwards.group.decodeElement Edwards.Point.base.encode "blinded message").toOption.any
        (fun _ ↦ true) = true ∧
      (Blinding.accountKey .default (Bytes.zeros 32) (Bytes.ofString "alice")).toOption.any
        (fun _ ↦ true) = true ∧
      Montgomery.multiply (Bytes.zeros 32) ExchangeName.basePoint ≠ Bytes.zeros 32 ∧
      Montgomery.multiply (Bytes.ofNat 32 1) ExchangeName.basePoint ≠ Bytes.zeros 32 ∧
      (ServerSetup.make .default (Bytes.zeros 32) (Bytes.zeros 32)).toOption.any
        (fun setup ↦ Montgomery.multiply (Bytes.ofNat 32 1) setup.standInKey ≠ Bytes.zeros 32) =
          true := by
  decide +kernel

/-- The request is read. -/
private theorem exists_ofBytes_baseRequest :
    ∃ bs, Message.ofBytes .credentialRequest .default bs =
      .ok (.credentialRequest baseRequest) := by
  obtain ⟨point, hpoint, -⟩ := Except.exists_of_any evaluated.1
  have hkeyshare := isPublicKey_of_length (Bytes.length_ofNatLE 32 9)
  have hbytes : (Message.credentialRequest baseRequest).toBytes = .ok _ :=
    Message.toBytes_eq_ok_iff.mpr ⟨rfl, rfl⟩
  have hvalid : (Message.credentialRequest baseRequest).validate = .ok () :=
    Except.bind_of_ok hpoint (hkeyshare.2 _)
  have hfits : (Message.credentialRequest baseRequest).CarriesFitting := trivial
  exact ⟨_, Message.ofBytes_of_toBytes hfits hvalid hbytes⟩

/-- The setup of zeros has a key for the account, and what it shares with its own stand-in is not
zero. -/
private theorem exists_zeroSetup : ∃ setup key,
    ServerSetup.make .default (Bytes.zeros 32) (Bytes.zeros 32) = .ok setup ∧
      setup.accountKey (Bytes.ofString "alice") = .ok key ∧
      Montgomery.multiply (Bytes.ofNat 32 1) setup.standInKey ≠ Bytes.zeros 32 := by
  obtain ⟨-, haccount, -, -, hsetup⟩ := evaluated
  obtain ⟨setup, hmake, hstandIn⟩ := Except.exists_of_any hsetup
  obtain ⟨key, hkey, -⟩ := Except.exists_of_any haccount
  obtain ⟨hsuite, holds⟩ := ServerSetup.holds_of_make hmake
  rw [← hsuite, ← holds.accountKey_eq] at hkey
  exact ⟨setup, key, hmake, hkey, of_decide_eq_true hstandIn⟩

/-- On the steady source the fresh key is one. -/
private theorem fst_runOn_freshKey :
    ((freshKey .default).runOn ⟨.steady, []⟩).1 = .ok (Bytes.ofNat 32 1) := by
  have hserves : (freshKey .default).Serves .steady fun key ↦ key = Bytes.ofNat 32 1 :=
    (Draw.Serves.bytes_steady _).bind fun _ _ ↦ (Draw.Serves.bytes_steady _).bind fun _ _ ↦
      Draw.Serves.bytes_steady 32
  obtain ⟨_, e', hrun, rfl⟩ := hserves.exists_steady
  rw [hrun]

/-- With the generator for the client key of a record, the server answers. -/
theorem answer_of_ofBytes_montgomery : ∃ setup recordBytes requestBytes key y,
    ServerSetup.make .default (Bytes.zeros 32) (Bytes.zeros 32) = .ok setup ∧
      Record.ofBytes .default recordBytes = .ok (recordOf ExchangeName.basePoint) ∧
      Message.ofBytes .credentialRequest .default requestBytes =
        .ok (.credentialRequest baseRequest) ∧
      setup.accountKey (Bytes.ofString "alice") = .ok key ∧
      ((answer (.message (.credentialRequest baseRequest))
        (some (.record (recordOf ExchangeName.basePoint))) (Bytes.ofString "alice") setup
        {}).runOn ⟨.steady, []⟩).1 = .ok y := by
  obtain ⟨setup, key, hmake, hkey, -⟩ := exists_zeroSetup
  obtain ⟨recordBytes, hrecord⟩ := exists_ofBytes_recordOf (Bytes.length_ofNatLE 32 9)
  obtain ⟨requestBytes, hrequest⟩ := exists_ofBytes_baseRequest
  obtain ⟨-, hdrawn⟩ := answer_of_ofBytes Groups.sized_standard hmake hrecord hrequest hkey {}
    (by decide) (by decide) (by decide) ⟨.steady, []⟩
  obtain ⟨-, hreturns, -⟩ := hdrawn _ fst_runOn_freshKey
  obtain ⟨-, -, hstatic, hfresh, -⟩ := evaluated
  obtain ⟨y, hy⟩ : ∃ y, _ = Except.ok y := hreturns <| by
    rintro (h | h | h)
    · exact hfresh h.2
    · exact hstatic h.2
    · exact hfresh h.2
  exact ⟨setup, recordBytes, requestBytes, key, y, hmake, hrecord, hrequest, hkey, hy⟩

/-- A record that was read keeps the server from answering a request that was read, to which it
would have answered without an account. -/
theorem answer_of_zeroRecord : ∃ setup recordBytes requestBytes key x,
    ServerSetup.make .default (Bytes.zeros 32) (Bytes.zeros 32) = .ok setup ∧
      Record.ofBytes .default recordBytes = .ok (recordOf (Bytes.zeros 32)) ∧
      Message.ofBytes .credentialRequest .default requestBytes =
        .ok (.credentialRequest baseRequest) ∧
      setup.accountKey (Bytes.ofString "alice") = .ok key ∧
      ((answer (.message (.credentialRequest baseRequest)) none (Bytes.ofString "alice") setup
        {}).runOn ⟨.steady, []⟩).1 = .ok x ∧
      ((answer (.message (.credentialRequest baseRequest))
        (some (.record (recordOf (Bytes.zeros 32)))) (Bytes.ofString "alice") setup {}).runOn
          ⟨.steady, []⟩).1 = .error (.malformed "peer public key" .noSharedKey) := by
  obtain ⟨setup, key, hmake, hkey, hstandIn⟩ := exists_zeroSetup
  obtain ⟨recordBytes, hrecord⟩ := exists_ofBytes_recordOf (Bytes.length_zeros 32)
  obtain ⟨requestBytes, hrequest⟩ := exists_ofBytes_baseRequest
  obtain ⟨hsuite, holds⟩ := ServerSetup.holds_of_make hmake
  obtain ⟨hsuite', hsuite'', admissible⟩ := admissible_of_ofBytes hsuite hrequest hrecord
  have sized : Groups.Sized := Groups.sized_standard
  have hdrawn := fst_runOn_freshKey
  rw [← hsuite] at hdrawn
  have hempty : ([] : Bytes).length < 256 ^ 2 := by decide
  have hsame : baseRequest.suite.same setup.suite = true := Suite.same_of_eq hsuite'
  obtain ⟨hrefused, -⟩ := answer_of_freshKey sized holds admissible hkey hsame
    (uploadOf_record (Suite.same_of_eq hsuite'')) {} hempty hempty hempty hdrawn
  have hexchange : setup.suite.exchange = .x25519 := congrArg Suite.exchange hsuite
  have hzero : SessionKeys.Refuses setup.suite (Bytes.ofNat 32 1) (Bytes.zeros 32)
      (recordOf (Bytes.zeros 32)).upload.clientPublicKey baseRequest.clientKeyshare :=
    .inr (.inr ⟨hexchange, Montgomery.multiply_zeros _⟩)
  -- The stand-in of the same setup has a key whose shared value is not zero.
  obtain ⟨standIn, hupload, hstandInKey⟩ : ∃ upload, uploadOf none (Bytes.ofString "alice") setup =
      .ok upload ∧ upload.clientPublicKey = setup.standInKey :=
    ⟨_, Except.bind_of_ok holds.readSeed rfl, rfl⟩
  have hvalid : setup.suite.exchange.validatePublicKey standIn.clientPublicKey
      "client public key" = .ok () := by
    obtain ⟨sk, hsk⟩ := holds.standInKey
    have hlength := sized.length_publicKey hsk
    rw [← hstandInKey] at hlength
    rw [hsuite] at hlength ⊢
    exact (isPublicKey_of_length hlength).2 _
  obtain ⟨-, hunknown⟩ := answer_of_freshKey sized holds
    { admissible with clientKey := hvalid } hkey hsame hupload {} hempty hempty hempty hdrawn
  obtain ⟨-, -, hstatic, hfresh, -⟩ := evaluated
  have hnot : ¬ SessionKeys.Refuses setup.suite (Bytes.ofNat 32 1) (Bytes.zeros 32)
      standIn.clientPublicKey baseRequest.clientKeyshare := by
    rw [hstandInKey]
    rintro (h | h | h)
    · exact hfresh h.2
    · exact hstatic h.2
    · exact hstandIn h.2
  obtain ⟨x, hx⟩ := hunknown hnot
  exact ⟨setup, recordBytes, requestBytes, key, x, hmake, hrecord, hrequest, hkey, hx,
    hrefused hzero⟩

end Montgomery

end Login

end Apake
