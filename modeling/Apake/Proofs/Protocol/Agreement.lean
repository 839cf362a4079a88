import Apake.Proofs.Group.Sizes
import Apake.Proofs.Handshake.Collision
import Apake.Proofs.Protocol.Completeness

/-!
# Both sides agree on the whole exchange

Whoever carried the messages: if a client finishes on a response and a server releases a key to that
client's confirmation, they have one session key and saw one exchange, or a hash function has been
broken on the values that they computed.
-/

namespace Apake

/-- Elements have encodings of the stated length. -/
def Suite.Sized [Groups] (s : Suite) : Prop := ∀ e, (s.group.encode e).length = s.elementLength

/-- The elements of the standard groups have encodings of the stated lengths. -/
theorem Suite.sized_standard (s : Suite) : @Suite.Sized Groups.standard s :=
  let := Groups.standard
  (Groups.sized_standard.prime s.blinding).length_encode

namespace Login

section Protocol

variable [Groups]

/-- What the two sides of a login have in common: the session key, the request and the response, the
context and the identities.  The suites of the responses are of equal value, as they are compared. -/
structure Agreed (sent request : CredentialRequest) (received response : CredentialResponse)
    (clientSide serverSide : Transcript) (clientSession serverSession : Bytes) : Prop where
  sessionKey : clientSession = serverSession
  request : (Message.credentialRequest request).toBytes = (Message.credentialRequest sent).toBytes
  suite : received.suite.same response.suite = true
  response : { received with suite := response.suite } = response
  context : clientSide.context = serverSide.context
  clientIdentity : clientSide.clientIdentity = serverSide.clientIdentity
  serverIdentity : clientSide.serverIdentity = serverSide.serverIdentity

/-- The sizes of the fields of a response. -/
structure Fits (s : Suite) (r : CredentialResponse) : Prop where
  evaluatedMessage : r.evaluatedMessage.length = s.elementLength
  maskingNonce : r.maskingNonce.length = s.nonceLength
  maskedResponse : r.maskedResponse.length = s.maskedLength
  serverNonce : r.serverNonce.length = s.nonceLength
  serverMac : r.serverMac.length = s.hashLength

/-- A response that was read has fields of the right sizes, for every suite of the value of its
own. -/
theorem fits_of_ofBytes {s t : Suite} {wire : Bytes} {r : CredentialResponse}
    (h : Message.ofBytes .credentialResponse t wire = .ok (.credentialResponse r))
    (hsuite : r.suite.same s = true) : Fits s r := by
  obtain ⟨-, -, hbytes⟩ := Message.toBytes_of_ofBytes h
  obtain ⟨hsizes, -⟩ := Message.toBytes_eq_ok_iff.mp hbytes
  have hsizes : [r.evaluatedMessage.length, r.maskingNonce.length, r.maskedResponse.length,
      r.serverNonce.length, r.serverKeyshare.length, r.serverMac.length] =
      [r.suite.elementLength, r.suite.nonceLength, r.suite.maskedLength, r.suite.nonceLength,
        r.suite.publicLength, r.suite.hashLength] := hsizes
  simp only [List.cons.injEq, and_true] at hsizes
  obtain ⟨hevaluated, hmaskingNonce, hmasked, hserverNonce, -, hmac⟩ := hsizes
  obtain ⟨f, hf⟩ := Suite.exists_of_same hsuite
  rw [hf] at hevaluated hmaskingNonce hmasked hserverNonce hmac
  exact ⟨hevaluated, hmaskingNonce, hmasked, hserverNonce, hmac⟩

/-- Responses with fields of the right sizes are told apart by what goes into a transcript. -/
theorem Fits.eq_of_credentialPart {s : Suite} {r r' : CredentialResponse} (h : Fits s r)
    (h' : Fits s r') (hpart : r.credentialPart = r'.credentialPart)
    (hnonce : r.serverNonce = r'.serverNonce) (hkeyshare : r.serverKeyshare = r'.serverKeyshare)
    (hmac : r.serverMac = r'.serverMac) : { r with suite := r'.suite } = r' := by
  unfold CredentialResponse.credentialPart at hpart
  obtain ⟨hfirst, hmasked⟩ := List.append_inj hpart (by
    simp only [List.length_append, h.evaluatedMessage, h.maskingNonce, h'.evaluatedMessage,
      h'.maskingNonce])
  obtain ⟨hevaluated, hmaskingNonce⟩ := List.append_inj hfirst
    (h.evaluatedMessage.trans h'.evaluatedMessage.symm)
  cases r
  cases r'
  simp only [CredentialResponse.mk.injEq]
  exact ⟨trivial, hevaluated, hmaskingNonce, hmasked, hnonce, hkeyshare, hmac⟩

section Sides

variable {setup : ServerSetup} {upload : RegistrationUpload}
  {clientParams serverParams : LoginParameters}
  {request : CredentialRequest} {privateKey ephemeralKey wire transcript' shared' : Bytes}
  {response : CredentialResponse} {state : ServerLoginState}
  (answered : Answered setup upload serverParams request privateKey ephemeralKey wire transcript'
    shared' response state)

include answered

/-- An answer of the server has fields of the right sizes. -/
theorem Answered.fits (hevaluated : response.evaluatedMessage.length = setup.suite.elementLength) :
    Fits setup.suite response where
  evaluatedMessage := hevaluated
  maskingNonce := answered.maskingNonce
  maskedResponse := Masking.length_of_mask answered.masked
  serverNonce := answered.serverNonce
  serverMac := by
    rw [answered.mac]
    exact SessionKeys.length_confirmServer _ _

/-- An answer whose evaluation is a valid element is read back from the wire. -/
theorem Answered.exists_ofBytes (lawful : setup.suite.exchange.Lawful)
    (hevaluated : response.evaluatedMessage.length = setup.suite.elementLength)
    {e : setup.suite.group.Element}
    (hdecode : setup.suite.group.decodeElement response.evaluatedMessage "evaluated message" =
      .ok e) :
    ∃ bs, Message.ofBytes .credentialResponse setup.suite bs =
      .ok (.credentialResponse response) := by
  obtain ⟨s, evaluatedMessage, maskingNonce, maskedResponse, serverNonce, serverKeyshare, mac⟩ :=
    response
  obtain rfl : s = setup.suite := answered.suite
  have hfits := answered.fits hevaluated
  have hshare := ExchangeName.length_of_publicKey lawful answered.keyshare
  have hvalid := ExchangeName.validatePublicKey_of_publicKey lawful answered.keyshare
    "server keyshare"
  have hsizes : [evaluatedMessage.length, maskingNonce.length, maskedResponse.length,
      serverNonce.length, serverKeyshare.length, mac.length] =
      MessageKind.sizes setup.suite .credentialResponse := by
    rw [hfits.evaluatedMessage, hfits.maskingNonce, hfits.maskedResponse, hfits.serverNonce,
      hfits.serverMac, hshare]
    rfl
  let m : Message := .credentialResponse ⟨setup.suite, evaluatedMessage, maskingNonce,
    maskedResponse, serverNonce, serverKeyshare, mac⟩
  have hfitting : m.CarriesFitting := trivial
  have hwrite : m.toBytes = .ok m.parts.flatten := Message.toBytes_eq_ok_iff.mpr ⟨hsizes, rfl⟩
  exact ⟨_, Message.ofBytes_of_toBytes hfitting (Except.bind_of_ok hdecode hvalid) hwrite⟩

/-- A client and a server with one confirmation of the client agree, or their calls collide. -/
theorem Answered.agreed_or_collision
    (hevaluated : response.evaluatedMessage.length = setup.suite.elementLength)
    {sent : CredentialRequest} {secrets : LoginSecrets} {received : CredentialResponse}
    {clientKey serverKey transcript shared : Bytes} {result : LoginResult}
    (completed : Completed setup.suite secrets received clientParams clientKey serverKey transcript
      shared result)
    (hsent : (Message.credentialRequest sent).toBytes = .ok secrets.request)
    (hsuites : request.suite.same sent.suite = true)
    (hreceived : received.suite.same setup.suite = true)
    (hfits : Fits setup.suite received)
    (hmac : (SessionKeys.keysOf setup.suite shared' transcript').confirmClient setup.suite
      transcript' response.serverMac = result.message.clientMac) :
    Agreed sent request received response
        (transcriptOf clientParams clientKey serverKey secrets.request received)
        (transcriptOf serverParams upload.clientPublicKey setup.publicKey wire response)
        result.sessionKey (SessionKeys.keysOf setup.suite shared' transcript').session ∨
      HashCall.Collision setup.suite.hash
        (SessionKeys.calls setup.suite shared' transcript' response.serverMac ++
          SessionKeys.calls setup.suite shared transcript received.serverMac) := by
  rw [completed.message] at hmac
  have hresponse := answered.fits hevaluated
  rcases SessionKeys.eq_or_collision_of_confirmClient hmac with ⟨hbytes, hshared⟩ | hcollision
  · have hrequest : wire.length = secrets.request.length := by
      obtain ⟨f, hf⟩ := Suite.exists_of_same hsuites
      rw [Message.length_of_toBytes answered.writes, Message.length_of_toBytes hsent]
      show MessageKind.length .credentialRequest request.suite = _
      rw [hf]
      rfl
    have hpart : response.credentialPart.length = received.credentialPart.length := by
      unfold CredentialResponse.credentialPart
      simp only [List.length_append, hresponse.evaluatedMessage, hresponse.maskingNonce,
        hresponse.maskedResponse, hfits.evaluatedMessage, hfits.maskingNonce, hfits.maskedResponse]
    obtain ⟨heq, hconfirmation⟩ := Transcript.toBytes_append_inj answered.hashes completed.hashes
      hrequest hpart (hresponse.serverNonce.trans hfits.serverNonce.symm)
      (hresponse.serverMac.trans hfits.serverMac.symm) hbytes
    obtain rfl : transcript' = transcript := by
      have hhashes := completed.hashes
      rw [← heq, answered.hashes] at hhashes
      exact Except.ok.inj hhashes
    simp only [transcriptOf, Transcript.mk.injEq] at heq
    obtain ⟨hcontext, hclient, hwire, hserver, hcredential, hnonce, hkeyshare⟩ := heq
    refine .inl
      { sessionKey := completed.session.trans (SessionKeys.session_eq hshared.symm)
        request := ?_
        suite := by rw [answered.suite, hreceived]
        response := hfits.eq_of_credentialPart hresponse hcredential.symm hnonce.symm
          hkeyshare.symm hconfirmation.symm
        context := hcontext.symm
        clientIdentity := hclient.symm
        serverIdentity := hserver.symm }
    rw [answered.writes, hsent, hwire]
  · exact .inr hcollision

end Sides

/-- If a client that was started finishes on a response from the wire, and a server that answered
some request in the same suite releases a key to that client's confirmation, then both agree on the
whole exchange, or two calls of one function that they made have different inputs and one output. -/
theorem agreed_of_release {s : Suite} (hsized : s.Sized) {password : Bytes}
    {sent : CredentialRequest} {clientState : ClientLoginState} {e₁ e₁' : Entropy}
    (hstart : (start s password).runOn e₁ = (.ok (sent, clientState), e₁'))
    {setup : ServerSetup} (hsetup : setup.suite = s) {request : CredentialRequest}
    {record : Option Item} {identifier : Bytes} {serverParams : LoginParameters}
    {response : CredentialResponse} {serverState : ServerLoginState} {e₂ e₂' : Entropy}
    (hanswer : (answer (.message (.credentialRequest request)) record identifier setup
      serverParams).runOn e₂ = (.ok (response, serverState), e₂'))
    {wire : Bytes} {t : Suite} {received : CredentialResponse}
    (hread : Message.ofBytes .credentialResponse t wire = .ok (.credentialResponse received))
    {clientParams : LoginParameters} {result : LoginResult}
    (hfinish : (finish (.login clientState) (.message (.credentialResponse received))
      clientParams).1 = .ok result)
    {key : Bytes}
    (hconfirm : (confirm (.pending serverState)
      (.message (.credentialFinalization result.message))).1 = .ok key) :
    ∃ upload clientKey serverKey privateKey ephemeralKey written transcript shared transcript'
        shared',
      uploadOf record identifier setup = .ok upload ∧
      Completed s clientState.content received clientParams clientKey serverKey transcript shared
        result ∧
      Answered setup upload serverParams request privateKey ephemeralKey written transcript' shared'
        response serverState ∧
      (Agreed sent request received response
          (transcriptOf clientParams clientKey serverKey clientState.content.request received)
          (transcriptOf serverParams upload.clientPublicKey setup.publicKey written response)
          result.sessionKey key ∨
        HashCall.Collision s.hash (SessionKeys.calls s shared' transcript' response.serverMac ++
          SessionKeys.calls s shared transcript received.serverMac)) := by
  subst hsetup
  obtain ⟨hclient, hsent, hwritten⟩ := started_of_start hstart
  obtain ⟨upload, hrequest, hupload, hrespond⟩ := runOn_answer_eq_ok_iff.mp hanswer
  obtain ⟨blinded, accountKey, privateKey, ephemeralKey, written, transcript', shared', -, -,
    hevaluated, answered⟩ := answered_of_respond hrespond
  obtain ⟨-, hreceived, hcomplete⟩ := finish_eq_ok_iff.mp hfinish
  rw [hclient] at hreceived hcomplete
  obtain ⟨clientKey, serverKey, transcript, shared, completed⟩ := completed_of_complete hcomplete
  obtain ⟨-, -, hrelease⟩ := confirm_eq_ok_iff.mp hconfirm
  rw [answered.state] at hrelease
  obtain ⟨hmac, rfl⟩ := release_eq_ok_iff.mp hrelease
  refine ⟨upload, clientKey, serverKey, privateKey, ephemeralKey, written, transcript, shared,
    transcript', shared', hupload, completed, answered, ?_⟩
  have hlength : response.evaluatedMessage.length = setup.suite.elementLength := by
    rw [hevaluated]
    exact hsized _
  rw [← hsent] at hrequest
  exact answered.agreed_or_collision hlength completed hwritten hrequest hreceived
    (fits_of_ofBytes hread hreceived) hmac

end Protocol

attribute [local instance] Groups.closed in
/-- Both sides of a login over residues agree, or their calls collide. -/
theorem agreed_of_release_residue :
    ∃ setup record sent clientState response serverState e₁ e₂ wire result key,
      ServerSetup.make Residue.plainSuite (Bytes.zeros 32) (Bytes.ofNat 28 1) = .ok setup ∧
      (start Residue.plainSuite (Bytes.ofString "secret")).runOn ⟨.steady, []⟩ =
        (.ok (sent, clientState), e₁) ∧
      (answer (.message (.credentialRequest sent)) (some (.record record)) (Bytes.ofString "alice")
        setup {}).runOn ⟨.steady, []⟩ = (.ok (response, serverState), e₂) ∧
      Message.ofBytes .credentialResponse Residue.plainSuite wire =
        .ok (.credentialResponse response) ∧
      (finish (.login clientState) (.message (.credentialResponse response)) {}).1 = .ok result ∧
      (confirm (.pending serverState) (.message (.credentialFinalization result.message))).1 =
        .ok key ∧
      ∃ (upload : RegistrationUpload) (clientKey serverKey written transcript shared transcript'
          shared' : Bytes),
        Agreed sent sent response response
            (transcriptOf {} clientKey serverKey clientState.content.request response)
            (transcriptOf {} upload.clientPublicKey setup.publicKey written response)
            result.sessionKey key ∨
          HashCall.Collision .sha256
            (SessionKeys.calls Residue.plainSuite shared' transcript' response.serverMac ++
              SessionKeys.calls Residue.plainSuite shared transcript response.serverMac) := by
  obtain ⟨setup, record, exportKey, session, hmake, hregistered, hsession⟩ := exists_session_residue
  obtain ⟨hsuite, holds⟩ := ServerSetup.holds_of_make hmake
  obtain ⟨_, _, sent, clientState, response, serverState, hpassword, haccount, hstart, hanswer,
    hfinish, hconfirm⟩ := steps_of_run hsession
  rw [hsuite] at hstart
  cases hpassword
  cases haccount
  have hstart := Draw.runOn_of_fst hstart
  have hanswer := Draw.runOn_of_fst hanswer
  have hsized : Residue.plainSuite.Sized := Residue.length_closedGroup_encode
  have hlengths : setup.suite.Sized := hsuite ▸ hsized
  -- The response is valid on the wire, because both sides have found it so.
  obtain ⟨_, -, -, hrespond⟩ := runOn_answer_eq_ok_iff.mp hanswer
  obtain ⟨blinded, accountKey, privateKey, ephemeralKey, written, transcript, shared, -, -,
    hevaluated, answered⟩ := answered_of_respond hrespond
  obtain ⟨hclient, -, -⟩ := started_of_start hstart
  obtain ⟨-, -, hcomplete⟩ := finish_eq_ok_iff.mp hfinish
  rw [hclient, ← hsuite] at hcomplete
  obtain ⟨_, _, _, _, completed⟩ := completed_of_complete hcomplete
  obtain ⟨_, _, ⟨evaluated, _, _, _, _, _, hdecode, -⟩, -⟩ := completed.shares
  have lawful : setup.suite.Lawful := hsuite ▸ Residue.plainSuite_lawful
  have hlength : response.evaluatedMessage.length = setup.suite.elementLength := by
    rw [hevaluated]
    exact hlengths _
  obtain ⟨wire, hread⟩ := answered.exists_ofBytes lawful.exchange hlength hdecode
  rw [hsuite] at hread
  obtain ⟨upload, clientKey, serverKey, _, _, written, transcript, shared, transcript', shared', -,
    -, -, hagreed⟩ := agreed_of_release hsized hstart hsuite hanswer hread hfinish hconfirm
  exact ⟨setup, record, sent, clientState, response, serverState, _, _, wire, _, _, hmake, hstart,
     hanswer, hread, hfinish, hconfirm, upload, clientKey, serverKey, written, transcript,
    shared, transcript', shared', hagreed⟩

end Login

end Apake
