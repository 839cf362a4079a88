import Apake.Proofs.Protocol.Exchange
import Apake.Proofs.Protocol.Steady

/-!
# A registered password logs in

A login with the password of a registration returns unless a source fails, whatever the sources were
and are: both sides have one session key, and the client has the export key of its registration.
-/

namespace Apake.Login

section Protocol

variable [Groups]

/-- A whole login against a record, with one supply for each side: what both sides end up with. -/
def run (setup : ServerSetup) (record : Record) (identifier password : Phrase)
    (params : LoginParameters) (client server : Entropy) : Except Error RecordStore.Session := do
  let bytes ← password.toBytes
  let (request, clientState) ← ((start setup.suite bytes).runOn client).1
  let bytes ← identifier.toBytes
  let (response, serverState) ← ((answer (.message (.credentialRequest request))
    (some (.record record)) bytes setup params).runOn server).1
  let result ← (finish (.login clientState) (.message (.credentialResponse response)) params).1
  let key ← (confirm (.pending serverState) (.message (.credentialFinalization result.message))).1
  return ⟨result, key⟩

/-- The steps of a login that returned. -/
theorem steps_of_run {setup : ServerSetup} {record : Record} {identifier password : Phrase}
    {params : LoginParameters} {client server : Entropy} {session : RecordStore.Session}
    (h : run setup record identifier password params client server = .ok session) :
    ∃ secret account sent clientState response serverState,
      password.toBytes = .ok secret ∧ identifier.toBytes = .ok account ∧
      ((start setup.suite secret).runOn client).1 = .ok (sent, clientState) ∧
      ((answer (.message (.credentialRequest sent)) (some (.record record)) account setup
        params).runOn server).1 = .ok (response, serverState) ∧
      (finish (.login clientState) (.message (.credentialResponse response)) params).1 =
        .ok session.client ∧
      (confirm (.pending serverState) (.message (.credentialFinalization
        session.client.message))).1 = .ok session.serverKey := by
  unfold run at h
  obtain ⟨secret, hsecret, h⟩ := Except.bind_eq_ok_iff.mp h
  obtain ⟨⟨sent, clientState⟩, hstart, h⟩ := Except.bind_eq_ok_iff.mp h
  obtain ⟨account, haccount, h⟩ := Except.bind_eq_ok_iff.mp h
  obtain ⟨⟨response, serverState⟩, hanswer, h⟩ := Except.bind_eq_ok_iff.mp h
  obtain ⟨result, hfinish, h⟩ := Except.bind_eq_ok_iff.mp h
  obtain ⟨key, hconfirm, h⟩ := Except.bind_eq_ok_iff.mp h
  cases h
  exact ⟨secret, account, sent, clientState, response, serverState, hsecret, haccount, hstart,
    hanswer, hfinish, hconfirm⟩

section Honest

variable {setup : ServerSetup} {seed privateKey : Bytes} {params : LoginParameters}
  {account secret randomized : Bytes} {key : Nat} {point : setup.suite.group.Element}
  {registered : RegistrationResult}

/-- The client's last step on an answer made from its own registration finds the confirmation right
and has the registration's export key. -/
theorem complete_of_answered (lawful : setup.suite.Lawful) (holds : setup.Holds seed privateKey)
    (evaluation : Evaluation setup account secret key point randomized)
    (enrolled : Enrolled setup.suite setup.publicKey params.identifiers randomized registered)
    {blinding nonce clientFresh keyshare wire ephemeralKey transcript shared : Bytes}
    {blinded : setup.suite.group.Element} {response : CredentialResponse} {state : ServerLoginState}
    (hides : Blinding.Hides setup.suite point blinding blinded)
    (hkeyshare : setup.suite.exchange.publicKey clientFresh = .ok keyshare)
    (hevaluated : response.evaluatedMessage =
      setup.suite.group.encode (Blinding.evaluate setup.suite blinded key))
    (answered : Answered setup registered.upload params
      ⟨setup.suite, setup.suite.group.encode blinded, nonce, keyshare⟩ privateKey ephemeralKey wire
      transcript shared response state) :
    complete setup.suite ⟨.ofBytes secret, .ofBytes blinding, setup.suite.group.encode blinded,
        .ofBytes clientFresh, wire⟩ response params =
      .ok ⟨⟨setup.suite, (SessionKeys.keysOf setup.suite shared transcript).confirmClient
          setup.suite transcript response.serverMac⟩,
        (SessionKeys.keysOf setup.suite shared transcript).session, registered.exportKey,
        setup.publicKey⟩ := by
  obtain ⟨hdiffers, -, hdecode, output, houtput, hrandomized⟩ :=
    evaluation.unblind lawful.group holds hides "evaluated message"
  obtain ⟨sk, envelopeNonce, hpublic, hsealed⟩ := enrolled.sealed
  obtain ⟨-, hfits, hrecover⟩ := Envelope.recover_of_enclose hsealed
  have hunmask := Masking.unmask_of_mask
    (ExchangeName.length_of_publicKey lawful.exchange holds.publicKey) hfits answered.masked
  rw [enrolled.maskingKey] at hunmask
  have hvalid := ExchangeName.validatePublicKey_of_publicKey lawful.exchange holds.publicKey
    "server public key"
  obtain ⟨shared', hclient, hserver⟩ := SessionKeys.shared_agree lawful.exchange hkeyshare hpublic
    answered.keyshare holds.publicKey
  obtain rfl : shared = shared' := Except.ok.inj (answered.shares.symm.trans hserver)
  have hmac : (SessionKeys.keysOf setup.suite shared transcript).checkServer setup.suite transcript
      response.serverMac = .ok () := by
    unfold SessionKeys.checkServer
    rw [if_pos answered.mac.symm]
  rw [← hevaluated] at hdiffers hdecode
  rw [enrolled.exportKey]
  unfold complete
  exact Except.bind_of_ok hdiffers <| Except.bind_of_ok hdecode <| Except.bind_of_ok rfl <|
    Except.bind_of_ok rfl <| Except.bind_of_ok houtput <| Except.bind_of_ok hrandomized <|
    Except.bind_of_ok hunmask <| Except.bind_of_ok hrecover <| Except.bind_of_ok hpublic <|
    Except.bind_of_ok hvalid <| Except.bind_of_ok rfl <| Except.bind_of_ok hclient <|
    Except.bind_of_ok answered.hashes <| Except.bind_of_ok (SessionKeys.derive_eq _ _) <|
    Except.bind_of_ok hmac rfl

/-- A login against the record of a registration with its password comes to its end, unless a source
fails. -/
theorem run_served {t : Trust} (lawful : setup.suite.Lawful) (sound : t.Sound setup.suite)
    (holds : setup.Holds seed privateKey)
    (evaluation : Evaluation setup account secret key point randomized)
    {record : Record} {exportKey : Bytes}
    (enrolled : Enrolled setup.suite setup.publicKey params.identifiers randomized
      ⟨record.upload, exportKey⟩)
    {identifier password : Phrase} (haccount : identifier.toBytes = .ok account)
    (hsecret : password.toBytes = .ok secret) (hcontext : params.context.length < 256 ^ 2)
    {client server : Entropy} (hclient : t.admits client.source)
    (hserver : t.admits server.source) :
    Served t (fun session ↦ session.client.sessionKey = session.serverKey ∧
        session.client.exportKey = exportKey ∧ session.client.serverPublicKey = setup.publicKey)
      (run setup record identifier password params client server) := by
  obtain ⟨sk, envelopeNonce, hpublic, hsealed⟩ := enrolled.sealed
  obtain ⟨-, -, clear, -, hclear, -⟩ := Envelope.enclose_eq_ok_iff.mp hsealed
  obtain ⟨hserverId, hclientId⟩ := Envelope.exists_cleartext_iff.mp ⟨clear, hclear⟩
  unfold run
  apply Served.ok_bind hsecret
  apply (start_serves lawful sound evaluation.hash |>.served hclient).bind
  rintro _ ⟨blinding, blinded, nonce, clientFresh, keyshare, wire, hides, hkeyshare, hwire, rfl⟩
  obtain ⟨-, hblinded, -⟩ := evaluation.unblind lawful.group holds hides ""
  have hanswer := respond_serves lawful sound holds hblinded hkeyshare hwire
    evaluation.accountKey hpublic hcontext hclientId hserverId
  apply Served.ok_bind haccount
  dsimp only
  rw [runOn_answer_of_upload (Suite.same_self _)
    (uploadOf_record (Suite.same_of_eq enrolled.suite))]
  apply (hanswer.served hserver).bind
  rintro ⟨response, state⟩ ⟨ephemeralKey, transcript, shared, hevaluated, answered⟩
  dsimp only at hevaluated answered ⊢
  have hcomplete := complete_of_answered lawful holds evaluation enrolled hides hkeyshare hevaluated
    answered
  apply Served.ok_bind
    (finish_eq_ok_iff.mpr ⟨rfl, Suite.same_of_eq answered.suite, hcomplete⟩)
  obtain rfl := answered.state
  refine Served.ok_bind (confirm_eq_ok_iff.mpr ⟨rfl, Suite.same_self _, ?_⟩) ⟨rfl, rfl, rfl⟩
  exact release_eq_ok_iff.mpr ⟨rfl, rfl⟩

end Honest

end Protocol

attribute [local instance] Groups.closed in
/-- On the steady source an account over residues that was registered with texts logs in with their
bytes. -/
theorem exists_session_residue : ∃ setup record exportKey session,
    ServerSetup.make Residue.plainSuite (Bytes.zeros 32) (Bytes.ofNat 28 1) = .ok setup ∧
      Registration.run setup Residue.alice Residue.secret Residue.secret {} ⟨.steady, []⟩
        ⟨.steady, []⟩ = .ok (record, exportKey) ∧
      run setup record (.bytes (Bytes.ofString "alice")) (.bytes (Bytes.ofString "secret")) {}
        ⟨.steady, []⟩ ⟨.steady, []⟩ = .ok session := by
  obtain ⟨setup, record, exportKey, hmake, hregistered⟩ := Residue.exists_registered
  obtain ⟨hsuite, holds⟩ := ServerSetup.holds_of_make hmake
  have lawful : setup.suite.Lawful := hsuite ▸ Residue.plainSuite_lawful
  have sound : Trust.steady.Sound setup.suite := hsuite ▸ Residue.steady_sound
  obtain ⟨account, secret, key, point, randomized, haccount, hsecret, evaluation, enrolled⟩ :=
    Registration.enrolled_of_run lawful holds rfl hregistered
  have halice : Phrase.toBytes (.bytes (Bytes.ofString "alice")) = .ok account :=
    Residue.toBytes_alice.symm.trans haccount
  have hlater : Phrase.toBytes (.bytes (Bytes.ofString "secret")) = .ok secret :=
    Residue.toBytes_secret.symm.trans hsecret
  have hserved : Served .steady _ (run setup record (.bytes (Bytes.ofString "alice"))
      (.bytes (Bytes.ofString "secret")) {} ⟨.steady, []⟩ ⟨.steady, []⟩) :=
    run_served lawful sound holds evaluation enrolled halice hlater (by decide) rfl rfl
  obtain ⟨session, hsession, -⟩ := hserved.exists_of_not_excused fun _ _ h ↦ h
  exact ⟨setup, record, exportKey, session, hmake, hregistered, hsession⟩

/-- After a registration that returned, every login with the same password, identifier, identities
and setup and a common context that fits behind its length returns, unless a source fails or has a
side search for ever: both sides have one session key, the client has the export key of the
registration and knows the server's public key. -/
theorem run_of_registered [Groups] {s : Suite} (lawful : s.Lawful) {seed privateKey : Bytes}
    {setup : ServerSetup} (hsetup : ServerSetup.make s seed privateKey = .ok setup)
    {identifier identifier' password again later : Phrase} {params : LoginParameters}
    {starting finishing client server : Entropy} {record : Record} {exportKey : Bytes}
    (hregistered : Registration.run setup identifier password again params.identifiers starting
      finishing = .ok (record, exportKey))
    (hagain : again.toBytes = password.toBytes) (hlater : later.toBytes = password.toBytes)
    (hidentifier : identifier'.toBytes = identifier.toBytes)
    (hcontext : params.context.length ≤ 65535)
    (hsources : ∀ err, run setup record identifier' later params client server = .error err →
      err.family ≠ .randomness)
    (hends : s.Searches → run setup record identifier' later params client server ≠
      .error .endless) :
    ∃ session, run setup record identifier' later params client server = .ok session ∧
      session.client.sessionKey = session.serverKey ∧ session.client.exportKey = exportKey ∧
      session.client.serverPublicKey = setup.publicKey := by
  obtain ⟨rfl, holds⟩ := ServerSetup.holds_of_make hsetup
  obtain ⟨account, secret, key, point, randomized, haccount, hsecret, evaluation, enrolled⟩ :=
    Registration.enrolled_of_run lawful holds hagain hregistered
  have hserved : Served (.anySource setup.suite.Searches) _
      (run setup record identifier' later params client server) :=
    run_served lawful (Trust.anySource_sound lawful) holds evaluation enrolled
      (hidentifier.trans haccount) (hlater.trans hsecret) (by omega) trivial trivial
  exact hserved.exists_of_sources hsources hends

attribute [local instance] Groups.closed in
/-- A registered account over residues logs in. -/
theorem run_of_registered_residue :
    ∃ setup record exportKey session,
      ServerSetup.make Residue.plainSuite (Bytes.zeros 32) (Bytes.ofNat 28 1) = .ok setup ∧
      Registration.run setup Residue.alice Residue.secret Residue.secret {} ⟨.steady, []⟩
        ⟨.steady, []⟩ = .ok (record, exportKey) ∧
      run setup record (.bytes (Bytes.ofString "alice")) (.bytes (Bytes.ofString "secret")) {}
        ⟨.steady, []⟩ ⟨.steady, []⟩ = .ok session ∧
      session.client.sessionKey = session.serverKey ∧ session.client.exportKey = exportKey ∧
      session.client.serverPublicKey = setup.publicKey := by
  obtain ⟨setup, record, exportKey, session, hmake, hregistered, hsession⟩ := exists_session_residue
  have hfirst : Registration.run setup Residue.alice Residue.secret Residue.secret
      ({} : LoginParameters).identifiers ⟨.steady, []⟩ ⟨.steady, []⟩ = .ok (record, exportKey) :=
    hregistered
  have hcontext : ({} : LoginParameters).context.length ≤ 65535 := by decide
  have hsources (err : Error) (h : run setup record (.bytes (Bytes.ofString "alice"))
      (.bytes (Bytes.ofString "secret")) {} ⟨.steady, []⟩ ⟨.steady, []⟩ = .error err) :
      err.family ≠ .randomness := by
    rw [hsession] at h
    cases h
  have hends : run setup record (.bytes (Bytes.ofString "alice"))
      (.bytes (Bytes.ofString "secret")) {} ⟨.steady, []⟩ ⟨.steady, []⟩ ≠ .error .endless := by
    rw [hsession]
    nofun
  have halice : Phrase.toBytes (.bytes (Bytes.ofString "alice")) = Residue.alice.toBytes :=
    Residue.toBytes_alice.symm
  have hlater : Phrase.toBytes (.bytes (Bytes.ofString "secret")) = Residue.secret.toBytes :=
    Residue.toBytes_secret.symm
  obtain ⟨session, hfinal⟩ := run_of_registered Residue.plainSuite_lawful hmake hfirst rfl hlater
    halice hcontext hsources fun _ ↦ hends
  exact ⟨setup, record, exportKey, session, hmake, hregistered, hfinal⟩

end Apake.Login
