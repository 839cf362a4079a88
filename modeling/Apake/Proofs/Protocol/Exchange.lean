import Apake.Protocol.Login
import Apake.Proofs.Handshake.Derivation
import Apake.Proofs.Handshake.Transcript
import Apake.Proofs.Protocol.Enrollment
import Apake.Proofs.Wire.Message

/-!
# The two sides of a login

Each step of a login is described by what it leaves behind: a request with the client's state, a
response with the server's.  Both sides put the same transcript together and compute the same shared
values, so the client finds no fault with an answer made from a record of its own registration.
-/

namespace Apake

variable [Groups]

/-- Both sides arrive at the same three values if each public key belongs to a private key. -/
theorem SessionKeys.shared_agree {s : Suite} (lawful : s.exchange.Lawful)
    {clientFresh clientStatic serverFresh serverStatic : Bytes}
    {clientShare clientKey serverShare serverKey : Bytes}
    (hclientFresh : s.exchange.publicKey clientFresh = .ok clientShare)
    (hclientStatic : s.exchange.publicKey clientStatic = .ok clientKey)
    (hserverFresh : s.exchange.publicKey serverFresh = .ok serverShare)
    (hserverStatic : s.exchange.publicKey serverStatic = .ok serverKey) :
    ∃ shared, clientShared s clientFresh clientStatic serverKey serverShare = .ok shared ∧
      serverShared s serverFresh serverStatic clientKey clientShare = .ok shared := by
  obtain ⟨a, ha, ha'⟩ := ExchangeName.diffieHellman_comm lawful hclientFresh hserverFresh
  obtain ⟨b, hb, hb'⟩ := ExchangeName.diffieHellman_comm lawful hclientFresh hserverStatic
  obtain ⟨c, hc, hc'⟩ := ExchangeName.diffieHellman_comm lawful hclientStatic hserverFresh
  refine ⟨a ++ b ++ c, ?_, ?_⟩
  · exact Except.bind_of_ok ha <| Except.bind_of_ok hb <| Except.bind_of_ok hc rfl
  · exact Except.bind_of_ok ha' <| Except.bind_of_ok hb' <| Except.bind_of_ok hc' rfl

namespace Login

omit [Groups] in
/-- An identity fits behind its length if the explicit one and the public key do. -/
theorem length_identity_lt {explicit : Option Bytes} {key : Bytes} {n : Nat}
    (hexplicit : (explicit.getD []).length < n) (hkey : key.length < n) :
    (identity explicit key).length < n := by
  unfold identity
  split
  · exact hkey
  · exact hkey
  · next bs _ => exact hexplicit

omit [Groups] in
/-- A fresh state releases its session key exactly to the confirmation that it expects. -/
theorem release_eq_ok_iff {expected sessionKey k : Bytes} {f : CredentialFinalization} :
    release ⟨.ofBytes expected, .ofBytes sessionKey⟩ f = .ok k ↔
      expected = f.clientMac ∧ sessionKey = k := by
  have hmac : (Secret.ofBytes expected).read = .ok expected := rfl
  have hkey : (Secret.ofBytes sessionKey).read = .ok sessionKey := rfl
  unfold release SessionKeys.checkClient
  rw [hmac, hkey]
  by_cases heq : expected = f.clientMac
  · simp [heq, bind, Except.bind]
  · simp [heq, bind, Except.bind]

/-- The client's last step returns exactly if its state is fresh, the response belongs to a suite of
the value of its own and its main part returns. -/
theorem finish_eq_ok_iff {state : ClientLoginState} {response : CredentialResponse}
    {params : LoginParameters} {result : LoginResult} :
    (finish (.login state) (.message (.credentialResponse response)) params).1 = .ok result ↔
      state.consumed = false ∧ response.suite.same state.suite = true ∧
        complete state.suite state.content response params = .ok result := by
  unfold finish accept
  by_cases hused : state.consumed
  · simp [State.asLogin, asResponse, SingleUse.consume, hused, bind, Except.bind]
  · by_cases hsuite : response.suite.same state.suite = true
    · simp [State.asLogin, asResponse, SingleUse.consume, hused, hsuite, bind, Except.bind, pure,
        Except.pure]
    · simp [State.asLogin, asResponse, SingleUse.consume, hused, hsuite, bind, Except.bind]

omit [Groups] in
/-- The server's last step returns exactly if its state is fresh, the confirmation belongs to a suite
of the value of its own and is the one expected. -/
theorem confirm_eq_ok_iff {state : ServerLoginState} {f : CredentialFinalization} {k : Bytes} :
    (confirm (.pending state) (.message (.credentialFinalization f))).1 = .ok k ↔
      state.consumed = false ∧ f.suite.same state.suite = true ∧ release state.content f = .ok k := by
  unfold confirm acceptFinalization
  by_cases hused : state.consumed
  · simp [State.asPending, asFinalization, SingleUse.consume, hused, bind, Except.bind]
  · by_cases hsuite : f.suite.same state.suite = true
    · simp [State.asPending, asFinalization, SingleUse.consume, hused, hsuite, bind, Except.bind,
        pure, Except.pure]
    · simp [State.asPending, asFinalization, SingleUse.consume, hused, hsuite, bind, Except.bind]

/-- The transcript that a side puts together from its parameters, the public keys as it knows them,
the request and the response. -/
def transcriptOf (params : LoginParameters) (clientKey serverKey request : Bytes)
    (r : CredentialResponse) : Transcript where
  context := params.context
  clientIdentity := identity params.identifiers.client clientKey
  request := request
  serverIdentity := identity params.identifiers.server serverKey
  credentialPart := r.credentialPart
  serverNonce := r.serverNonce
  serverKeyshare := r.serverKeyshare

/-- A request and a state of the client that hide the element of its password. -/
def Opened (s : Suite) (password : Bytes) (point : s.group.Element)
    (x : CredentialRequest × ClientLoginState) : Prop :=
  ∃ blinding blinded nonce ephemeralKey keyshare wire,
    Blinding.Hides s point blinding blinded ∧ s.exchange.publicKey ephemeralKey = .ok keyshare ∧
    (Message.credentialRequest ⟨s, s.group.encode blinded, nonce, keyshare⟩).toBytes = .ok wire ∧
    x = (⟨s, s.group.encode blinded, nonce, keyshare⟩,
      { suite := s
        content := ⟨.ofBytes password, .ofBytes blinding, s.group.encode blinded,
          .ofBytes ephemeralKey, wire⟩ })

/-- A response and a state of the server that answer a request from an upload. -/
structure Answered (setup : ServerSetup) (upload : RegistrationUpload) (params : LoginParameters)
    (request : CredentialRequest) (privateKey ephemeralKey wire transcript shared : Bytes)
    (response : CredentialResponse) (state : ServerLoginState) : Prop where
  reads : setup.privateKey.read = .ok privateKey
  suite : response.suite = setup.suite
  maskingNonce : response.maskingNonce.length = setup.suite.nonceLength
  serverNonce : response.serverNonce.length = setup.suite.nonceLength
  masked : Masking.mask setup.suite upload.maskingKey response.maskingNonce setup.publicKey
    upload.envelope = .ok response.maskedResponse
  keyshare : setup.suite.exchange.publicKey ephemeralKey = .ok response.serverKeyshare
  writes : (Message.credentialRequest request).toBytes = .ok wire
  hashes : (transcriptOf params upload.clientPublicKey setup.publicKey wire response).toBytes =
    .ok transcript
  shares : SessionKeys.serverShared setup.suite ephemeralKey privateKey upload.clientPublicKey
    request.clientKeyshare = .ok shared
  mac : response.serverMac =
    (SessionKeys.keysOf setup.suite shared transcript).confirmServer setup.suite transcript
  state : state =
    { suite := setup.suite
      content := ⟨.ofBytes ((SessionKeys.keysOf setup.suite shared transcript).confirmClient
          setup.suite transcript response.serverMac),
        .ofBytes (SessionKeys.keysOf setup.suite shared transcript).session⟩ }

/-- The private key that a client has opened a response with, and the server's public key in it. -/
def Opens (s : Suite) (secrets : LoginSecrets) (response : CredentialResponse) (ids : Identifiers)
    (serverKey privateKey : Bytes) : Prop :=
  ∃ evaluated blinding password output randomized envelope,
    s.group.decodeElement response.evaluatedMessage "evaluated message" = .ok evaluated ∧
    secrets.blinding.readNat = .ok blinding ∧ secrets.password.read = .ok password ∧
    Blinding.finalize s password blinding evaluated = .ok output ∧
    Blinding.randomize s output = .ok randomized ∧
    Masking.unmask s (Envelope.maskingKey s randomized) response.maskingNonce
      response.maskedResponse = .ok (serverKey, envelope) ∧
    Envelope.recover s randomized envelope serverKey ids = .ok privateKey

/-- A result that the client has computed from its state and a response. -/
structure Completed (s : Suite) (secrets : LoginSecrets) (response : CredentialResponse)
    (params : LoginParameters) (clientKey serverKey transcript shared : Bytes)
    (result : LoginResult) : Prop where
  shares : ∃ privateKey ephemeralKey,
    Opens s secrets response params.identifiers serverKey privateKey ∧
      s.exchange.publicKey privateKey = .ok clientKey ∧
      secrets.ephemeralKey.read = .ok ephemeralKey ∧
      SessionKeys.clientShared s ephemeralKey privateKey serverKey response.serverKeyshare =
        .ok shared
  hashes : (transcriptOf params clientKey serverKey secrets.request response).toBytes =
    .ok transcript
  message : result.message = ⟨s, (SessionKeys.keysOf s shared transcript).confirmClient s transcript
    response.serverMac⟩
  session : result.sessionKey = (SessionKeys.keysOf s shared transcript).session

section Client

variable {s : Suite} {password : Bytes} {point : s.group.Element}

/-- A first step of the client returns, unless the source fails. -/
theorem start_serves {t : Trust} (lawful : s.Lawful) (sound : t.Sound s)
    (hpoint : s.group.hash password (Blinding.tag s) = .ok point) :
    (start s password).Serves t (Opened s password point) := by
  refine (Blinding.blind_serves sound hpoint).bind fun ⟨blinding, blinded⟩ hides ↦ ?_
  refine (sound.bytes s.nonceLength).bind fun nonce hnonce ↦ ?_
  refine sound.privateKey.bind fun ephemeralKey ⟨keyshare, hkeyshare⟩ ↦ ?_
  have helement : (s.group.encode blinded).length = s.elementLength := by
    obtain ⟨Member, laws⟩ := lawful.group
    obtain ⟨r, -, -, rfl⟩ := hides
    exact laws.length_encode (laws.multiply_mem r (laws.mem_of_hash hpoint).1)
  have hshare := ExchangeName.length_of_publicKey lawful.exchange hkeyshare
  have hsizes : [(s.group.encode blinded).length, nonce.length, keyshare.length] =
      [s.elementLength, s.nonceLength, s.publicLength] := by
    rw [helement, hnonce, hshare]
    rfl
  let m : Message := .credentialRequest ⟨s, s.group.encode blinded, nonce, keyshare⟩
  have hwire : m.toBytes = .ok m.parts.flatten := Message.toBytes_eq_ok_iff.mpr ⟨hsizes, rfl⟩
  exact .lift_bind hkeyshare <| .lift_bind hwire <|
    .pure ⟨blinding, blinded, nonce, ephemeralKey, keyshare, _, hides, hkeyshare, hwire, rfl⟩

/-- What a first step of the client that returned has done. -/
theorem started_of_start {request : CredentialRequest} {state : ClientLoginState} {e e' : Entropy}
    (h : (start s password).runOn e = (.ok (request, state), e')) :
    state.suite = s ∧ request.suite = s ∧
      (Message.credentialRequest request).toBytes = .ok state.content.request := by
  obtain ⟨⟨blinding, blinded⟩, e₁, -, h⟩ := Draw.runOn_bind_eq_ok_iff.mp h
  obtain ⟨nonce, e₂, -, h⟩ := Draw.runOn_bind_eq_ok_iff.mp h
  obtain ⟨ephemeralKey, e₃, -, h⟩ := Draw.runOn_bind_eq_ok_iff.mp h
  obtain ⟨keyshare, -, h⟩ := Draw.runOn_lift_bind_eq_ok_iff.mp h
  obtain ⟨wire, hwire, h⟩ := Draw.runOn_lift_bind_eq_ok_iff.mp h
  cases h
  exact ⟨rfl, rfl, hwire⟩

/-- What a last step of the client that returned has done. -/
theorem completed_of_complete {secrets : LoginSecrets} {response : CredentialResponse}
    {params : LoginParameters} {result : LoginResult}
    (h : complete s secrets response params = .ok result) :
    ∃ clientKey serverKey transcript shared,
      Completed s secrets response params clientKey serverKey transcript shared result := by
  unfold complete at h
  obtain ⟨-, -, h⟩ := Except.bind_eq_ok_iff.mp h
  obtain ⟨evaluated, hevaluated, h⟩ := Except.bind_eq_ok_iff.mp h
  obtain ⟨blinding, hblinding, h⟩ := Except.bind_eq_ok_iff.mp h
  obtain ⟨password, hpassword, h⟩ := Except.bind_eq_ok_iff.mp h
  obtain ⟨output, houtput, h⟩ := Except.bind_eq_ok_iff.mp h
  obtain ⟨randomized, hrandomized, h⟩ := Except.bind_eq_ok_iff.mp h
  obtain ⟨⟨serverKey, envelope⟩, hunmask, h⟩ := Except.bind_eq_ok_iff.mp h
  obtain ⟨privateKey, hrecover, h⟩ := Except.bind_eq_ok_iff.mp h
  obtain ⟨clientKey, hpublic, h⟩ := Except.bind_eq_ok_iff.mp h
  obtain ⟨-, -, h⟩ := Except.bind_eq_ok_iff.mp h
  obtain ⟨ephemeralKey, hephemeral, h⟩ := Except.bind_eq_ok_iff.mp h
  obtain ⟨shared, hshared, h⟩ := Except.bind_eq_ok_iff.mp h
  obtain ⟨transcript, htranscript, h⟩ := Except.bind_eq_ok_iff.mp h
  obtain ⟨keys, hkeys, h⟩ := Except.bind_eq_ok_iff.mp h
  obtain ⟨-, -, h⟩ := Except.bind_eq_ok_iff.mp h
  rw [SessionKeys.derive_eq] at hkeys
  cases hkeys
  cases h
  have hopens : Opens s secrets response params.identifiers serverKey privateKey :=
    ⟨evaluated, blinding, password, output, randomized, envelope, hevaluated, hblinding, hpassword,
      houtput, hrandomized, hunmask, hrecover⟩
  exact ⟨clientKey, serverKey, transcript, shared,
    { shares := ⟨privateKey, ephemeralKey, hopens, hpublic, hephemeral, hshared⟩
      hashes := htranscript
      message := rfl
      session := rfl }⟩

end Client

section Server

variable {setup : ServerSetup} {upload : RegistrationUpload} {params : LoginParameters}
  {request : CredentialRequest} {identifier seed privateKey : Bytes}

/-- A server that has an upload for a request of its suite answers from it. -/
theorem runOn_answer_of_upload {record : Option Item}
    (hsuite : request.suite.same setup.suite = true)
    (hupload : uploadOf record identifier setup = .ok upload) (e : Entropy) :
    (answer (.message (.credentialRequest request)) record identifier setup params).runOn e =
      (respond setup upload request identifier params).runOn e := by
  unfold answer
  rw [hupload]
  simp only [asRequest, Draw.runOn_bind, Draw.runOn_lift, hsuite, Bool.not_true,
    Bool.false_eq_true, if_false]

/-- A server answers exactly a request of a suite of the value of its own for which it has an upload,
and from that. -/
theorem runOn_answer_eq_ok_iff {record : Option Item} {e e' : Entropy}
    {x : CredentialResponse × ServerLoginState} :
    (answer (.message (.credentialRequest request)) record identifier setup params).runOn e =
        (.ok x, e') ↔
      ∃ upload, request.suite.same setup.suite = true ∧ uploadOf record identifier setup = .ok upload ∧
        (respond setup upload request identifier params).runOn e = (.ok x, e') := by
  unfold answer
  constructor
  · intro h
    obtain ⟨r, hr, h⟩ := Draw.runOn_lift_bind_eq_ok_iff.mp h
    cases hr
    obtain ⟨hsuite, h⟩ := Draw.runOn_refuseIf_eq_ok_iff.mp h
    obtain ⟨upload, hupload, h⟩ := Draw.runOn_lift_bind_eq_ok_iff.mp h
    exact ⟨upload, by simpa using hsuite, hupload, h⟩
  · rintro ⟨upload, hsuite, hupload, h⟩
    refine Draw.runOn_lift_bind_eq_ok_iff.mpr ⟨request, rfl, ?_⟩
    refine Draw.runOn_refuseIf_eq_ok_iff.mpr ⟨by simp [hsuite], ?_⟩
    exact Draw.runOn_lift_bind_eq_ok_iff.mpr ⟨upload, hupload, h⟩

/-- A record of the server's suite stands for its upload. -/
theorem uploadOf_record {record : Record}
    (hsuite : record.upload.suite.same setup.suite = true) :
    uploadOf (some (.record record)) identifier setup = .ok record.upload := by
  unfold uploadOf
  apply Except.bind_of_ok rfl
  rw [if_neg (by simp [Record.suite, hsuite])]
  rfl

/-- What a first step of the server that returned has done. -/
theorem answered_of_respond {response : CredentialResponse} {state : ServerLoginState}
    {e e' : Entropy}
    (h : (respond setup upload request identifier params).runOn e = (.ok (response, state), e')) :
    ∃ blinded key privateKey ephemeralKey wire transcript shared,
      setup.suite.group.decodeElement request.blindedMessage "blinded message" = .ok blinded ∧
      setup.accountKey identifier = .ok key ∧
      response.evaluatedMessage =
        setup.suite.group.encode (Blinding.evaluate setup.suite blinded key) ∧
      Answered setup upload params request privateKey ephemeralKey wire transcript shared response
        state := by
  unfold respond at h
  obtain ⟨blinded, hblinded, h⟩ := Draw.runOn_lift_bind_eq_ok_iff.mp h
  obtain ⟨-, -, h⟩ := Draw.runOn_lift_bind_eq_ok_iff.mp h
  obtain ⟨key, hkey, h⟩ := Draw.runOn_lift_bind_eq_ok_iff.mp h
  obtain ⟨maskingNonce, e₁, hmaskingNonce, h⟩ := Draw.runOn_bind_eq_ok_iff.mp h
  obtain ⟨masked, hmasked, h⟩ := Draw.runOn_lift_bind_eq_ok_iff.mp h
  obtain ⟨serverNonce, e₂, hserverNonce, h⟩ := Draw.runOn_bind_eq_ok_iff.mp h
  obtain ⟨ephemeralKey, e₃, -, h⟩ := Draw.runOn_bind_eq_ok_iff.mp h
  obtain ⟨keyshare, hkeyshare, h⟩ := Draw.runOn_lift_bind_eq_ok_iff.mp h
  obtain ⟨wire, hwire, h⟩ := Draw.runOn_lift_bind_eq_ok_iff.mp h
  obtain ⟨transcript, htranscript, h⟩ := Draw.runOn_lift_bind_eq_ok_iff.mp h
  obtain ⟨sk, hsk, h⟩ := Draw.runOn_lift_bind_eq_ok_iff.mp h
  obtain ⟨shared, hshared, h⟩ := Draw.runOn_lift_bind_eq_ok_iff.mp h
  obtain ⟨keys, hkeys, h⟩ := Draw.runOn_lift_bind_eq_ok_iff.mp h
  rw [SessionKeys.derive_eq] at hkeys
  cases hkeys
  cases h
  exact ⟨blinded, key, sk, ephemeralKey, wire, transcript, shared, hblinded, hkey, rfl,
    { reads := hsk
      suite := rfl
      maskingNonce := Draw.length_of_runOn_bytes hmaskingNonce
      serverNonce := Draw.length_of_runOn_bytes hserverNonce
      masked := hmasked
      keyshare := hkeyshare
      writes := hwire
      hashes := htranscript
      shares := hshared
      mac := rfl
      state := rfl }⟩

/-- A first step of the server returns on a valid request, unless the source fails. -/
theorem respond_serves {t : Trust} (lawful : setup.suite.Lawful) (sound : t.Sound setup.suite)
    (holds : setup.Holds seed privateKey) {blinded : setup.suite.group.Element} {key : Nat}
    {clientFresh clientStatic wire : Bytes}
    (hblinded : setup.suite.group.decodeElement request.blindedMessage "blinded message" =
      .ok blinded)
    (hkeyshare : setup.suite.exchange.publicKey clientFresh = .ok request.clientKeyshare)
    (hwire : (Message.credentialRequest request).toBytes = .ok wire)
    (hkey : setup.accountKey identifier = .ok key)
    (hstatic : setup.suite.exchange.publicKey clientStatic = .ok upload.clientPublicKey)
    (hcontext : params.context.length < 256 ^ 2)
    (hclient : (params.identifiers.client.getD []).length < 256 ^ 2)
    (hserver : (params.identifiers.server.getD []).length < 256 ^ 2) :
    (respond setup upload request identifier params).Serves t fun x ↦
      ∃ ephemeralKey transcript shared,
        x.1.evaluatedMessage =
          setup.suite.group.encode (Blinding.evaluate setup.suite blinded key) ∧
        Answered setup upload params request privateKey ephemeralKey wire transcript shared x.1
          x.2 := by
  have hvalid := ExchangeName.validatePublicKey_of_publicKey lawful.exchange hkeyshare
    "client keyshare"
  have hpublic := ExchangeName.length_of_publicKey lawful.exchange holds.publicKey
  have hupload := ExchangeName.length_of_publicKey lawful.exchange hstatic
  have hwidth := ExchangeName.publicLength_lt lawful.exchange
  unfold respond
  refine .lift_bind hblinded <| .lift_bind hvalid <| .lift_bind hkey ?_
  refine (sound.bytes _).bind fun maskingNonce hmaskingNonce ↦ ?_
  obtain ⟨masked, hmasked, -⟩ := Masking.exists_mask hpublic upload.maskingKey maskingNonce
    upload.envelope
  refine .lift_bind hmasked <| (sound.bytes _).bind fun serverNonce hserverNonce ↦ ?_
  refine sound.privateKey.bind fun ephemeralKey ⟨keyshare, hserverShare⟩ ↦ ?_
  let parts (mac : Bytes) : CredentialResponse :=
    ⟨setup.suite, setup.suite.group.encode (Blinding.evaluate setup.suite blinded key),
      maskingNonce, masked, serverNonce, keyshare, mac⟩
  have hfits : (transcriptOf params upload.clientPublicKey setup.publicKey wire (parts [])).Fits :=
    ⟨hcontext, length_identity_lt hclient (by omega), length_identity_lt hserver (by omega)⟩
  obtain ⟨transcript, htranscript⟩ := hfits.exists_toBytes
  obtain ⟨shared, -, hshared⟩ := SessionKeys.shared_agree lawful.exchange hkeyshare hstatic
    hserverShare holds.publicKey
  refine .lift_bind hserverShare <| .lift_bind hwire <| .lift_bind htranscript <|
    .lift_bind holds.readPrivateKey <| .lift_bind hshared <|
    .lift_bind (SessionKeys.derive_eq _ _) <| .pure ?_
  exact ⟨ephemeralKey, transcript, shared, rfl,
    { reads := holds.readPrivateKey
      suite := rfl
      maskingNonce := hmaskingNonce
      serverNonce := hserverNonce
      masked := hmasked
      keyshare := hserverShare
      writes := hwire
      hashes := htranscript
      shares := hshared
      mac := rfl
      state := rfl }⟩

end Server

end Login

end Apake
