import Apake.Proofs.Protocol.Completeness
import Apake.Proofs.Random.Alike

/-!
# An unknown account answers like a known one

An upload enters the server's answer only through a mask, an identity and one Diffie-Hellman value.
None of these can fail or differ in size from one upload to another whose key belongs to a private
key, so the answer from the upload of a registration and the answer from a stand-in make the same
requests of the source, fail alike and look alike.
-/

namespace Apake.Login

section Protocol

variable [Groups]

/-- Answers that agree on everything but what is masked and confirmed, and there in size. -/
structure LookAlike (r r' : CredentialResponse) : Prop where
  suite : r.suite = r'.suite
  evaluatedMessage : r.evaluatedMessage = r'.evaluatedMessage
  maskingNonce : r.maskingNonce = r'.maskingNonce
  serverNonce : r.serverNonce = r'.serverNonce
  serverKeyshare : r.serverKeyshare = r'.serverKeyshare
  lengths : (Message.credentialResponse r).parts.map List.length =
    (Message.credentialResponse r').parts.map List.length

/-- Answers look alike if the masks and the confirmations, in which they differ, have one size. -/
theorem LookAlike.of_lengths {s : Suite} {e n m m' n' k c c' : Bytes} (hmask : m.length = m'.length)
    (hmac : c.length = c'.length) : LookAlike ⟨s, e, n, m, n', k, c⟩ ⟨s, e, n, m', n', k, c'⟩ where
  suite := rfl
  evaluatedMessage := rfl
  maskingNonce := rfl
  serverNonce := rfl
  serverKeyshare := rfl
  lengths := by
    simp only [Message.parts, Message.fields, List.map_cons, List.map_nil, Message.Field.toBytes,
      hmask, hmac]

variable {setup : ServerSetup} {seed privateKey identifier : Bytes} {params : LoginParameters}
  {request : CredentialRequest} {upload upload' : RegistrationUpload}

omit [Groups] in
/-- Identities that default to keys of one length fit behind their lengths alike. -/
theorem length_identity_eq {explicit : Option Bytes} {key key' : Bytes}
    (h : key.length = key'.length) :
    (identity explicit key).length = (identity explicit key').length := by
  unfold identity
  split
  · exact h
  · exact h
  · rfl

omit [Groups] in
/-- Transcripts whose parts have the same lengths are written or refused alike. -/
theorem related_transcripts {t t' : Transcript} (hcontext : t.context.length = t'.context.length)
    (hclient : t.clientIdentity.length = t'.clientIdentity.length)
    (hserver : t.serverIdentity.length = t'.serverIdentity.length) :
    Related (fun _ _ ↦ True) t.toBytes t'.toBytes := by
  by_cases hfits : t.Fits
  · have hfits' : t'.Fits :=
      ⟨hcontext ▸ hfits.context, hclient ▸ hfits.clientIdentity, hserver ▸ hfits.serverIdentity⟩
    obtain ⟨bs, hbs⟩ := hfits.exists_toBytes
    obtain ⟨bs', hbs'⟩ := hfits'.exists_toBytes
    rw [hbs, hbs']
    exact trivial
  · have hfits' : ¬ t'.Fits := fun h ↦ hfits
      ⟨hcontext ▸ h.context, hclient ▸ h.clientIdentity, hserver ▸ h.serverIdentity⟩
    rw [Transcript.toBytes_of_not_fits hfits, Transcript.toBytes_of_not_fits hfits']
    exact rfl

/-- Two static keys of clients that belong to private keys take part in the server's shared values
alike. -/
theorem related_serverShared {s : Suite} (lawful : s.exchange.Lawful)
    {fresh static share clientFresh sk sk' pk pk' : Bytes}
    (hfresh : s.exchange.publicKey fresh = .ok share) (hsk : s.exchange.publicKey sk = .ok pk)
    (hsk' : s.exchange.publicKey sk' = .ok pk') :
    Related (fun _ _ ↦ True) (SessionKeys.serverShared s fresh static pk clientFresh)
      (SessionKeys.serverShared s fresh static pk' clientFresh) := by
  obtain ⟨c, hc, -⟩ := ExchangeName.diffieHellman_comm lawful hfresh hsk
  obtain ⟨c', hc', -⟩ := ExchangeName.diffieHellman_comm lawful hfresh hsk'
  unfold SessionKeys.serverShared
  rw [hc, hc']
  cases s.exchange.diffieHellman fresh clientFresh with
  | error err => exact rfl
  | ok a =>
    cases s.exchange.diffieHellman static clientFresh with
    | error err => exact rfl
    | ok b => exact trivial

/-- With any two uploads whose keys belong to private keys, the server answers alike. -/
theorem respond_alike (lawful : setup.suite.exchange.Lawful) (holds : setup.Holds seed privateKey)
    {sk sk' : Bytes} (hsk : setup.suite.exchange.publicKey sk = .ok upload.clientPublicKey)
    (hsk' : setup.suite.exchange.publicKey sk' = .ok upload'.clientPublicKey) :
    Draw.Alike (fun x x' ↦ LookAlike x.1 x'.1)
      (respond setup upload request identifier params)
      (respond setup upload' request identifier params) := by
  have hpublic := ExchangeName.length_of_publicKey lawful holds.publicKey
  have hlength := (ExchangeName.length_of_publicKey lawful hsk).trans
    (ExchangeName.length_of_publicKey lawful hsk').symm
  unfold respond
  refine .lift_bind_self fun blinded _ ↦ .lift_bind_self fun _ _ ↦ .lift_bind_self fun key _ ↦ ?_
  refine .bind_self fun maskingNonce ↦ ?_
  obtain ⟨masked, hmasked, hlm⟩ := Masking.exists_mask hpublic upload.maskingKey maskingNonce
    upload.envelope
  obtain ⟨masked', hmasked', hlm'⟩ := Masking.exists_mask hpublic upload'.maskingKey maskingNonce
    upload'.envelope
  refine .lift_bind hmasked hmasked' <| .bind_self fun serverNonce ↦ .bind_self fun ephemeral ↦ ?_
  refine .lift_bind_self fun keyshare hkeyshare ↦ .lift_bind_self fun wire _ ↦ ?_
  refine .bind (.lift (related_transcripts rfl (length_identity_eq hlength) rfl))
    fun transcript transcript' _ ↦ ?_
  refine .lift_bind holds.readPrivateKey holds.readPrivateKey <|
    .bind (.lift (related_serverShared lawful hkeyshare hsk hsk')) fun shared shared' _ ↦ ?_
  refine .lift_bind (SessionKeys.derive_eq _ _) (SessionKeys.derive_eq _ _) <| .pure ?_
  have hmac : ((SessionKeys.keysOf setup.suite shared transcript).confirmServer setup.suite
      transcript).length = ((SessionKeys.keysOf setup.suite shared' transcript').confirmServer
        setup.suite transcript').length := by
    rw [SessionKeys.length_confirmServer, SessionKeys.length_confirmServer]
  exact .of_lengths (hlm.trans hlm'.symm) hmac

/-- A server that was made has a stand-in for every identifier, with a key of a private key. -/
theorem exists_standIn (holds : setup.Holds seed privateKey) (identifier : Bytes) :
    ∃ sk upload, setup.standIn identifier = .ok upload ∧
      setup.suite.exchange.publicKey sk = .ok upload.clientPublicKey := by
  obtain ⟨sk, hsk⟩ := holds.standInKey
  exact ⟨sk, _, Except.bind_of_ok holds.readSeed rfl, hsk⟩

/-- For every request, identifier, context, identities and source, a server answers from the upload
of a registration in its suite as it does without a record: it makes the same requests of the
source, and either both answers fail for one reason, or both search for ever, or they look alike. -/
theorem answer_alike_of_registered {s : Suite} (lawful : s.exchange.Lawful)
    (hsetup : ServerSetup.make s seed privateKey = .ok setup)
    {state : State} {password : Bytes} {answered : Item} {ids : Identifiers} {e₀ : Entropy}
    {result : RegistrationResult}
    (hregistered : (Registration.finish state password answered ids e₀).1 = .ok result)
    (hsuite : result.upload.suite = s) {record : Record}
    (hrecord : Registration.store (.message (.registrationUpload result.upload)) = .ok record)
    (request : CredentialRequest) (identifier : Bytes) (params : LoginParameters) (e : Entropy) :
    let known := (answer (.message (.credentialRequest request)) (some (.record record)) identifier
      setup params).runOn e
    let unknown := (answer (.message (.credentialRequest request)) none identifier setup
      params).runOn e
    known.2 = unknown.2 ∧
      ((∃ err, known.1 = .error err ∧ unknown.1 = .error err) ∨
        ∃ x x', known.1 = .ok x ∧ unknown.1 = .ok x' ∧ LookAlike x.1 x'.1) := by
  obtain ⟨rfl, holds⟩ := ServerSetup.holds_of_make hsetup
  obtain ⟨sk, hsk⟩ := Registration.exists_privateKey_of_finish hregistered
  rw [hsuite] at hsk
  obtain rfl : ⟨result.upload⟩ = record := Except.ok.inj hrecord
  obtain ⟨sk', upload', hupload', hsk'⟩ := exists_standIn holds identifier
  have halike : Draw.Alike (fun x x' ↦ LookAlike x.1 x'.1)
      (answer (.message (.credentialRequest request)) (some (.record ⟨result.upload⟩)) identifier
        setup params)
      (answer (.message (.credentialRequest request)) none identifier setup params) := by
    unfold answer
    refine .lift_bind_self fun r hr ↦ .refuseIf ?_
    exact .lift_bind (uploadOf_record (Suite.same_of_eq hsuite)) hupload' (respond_alike lawful holds hsk hsk')
  obtain ⟨hsupply, hrelated⟩ := halike e
  exact ⟨hsupply, hrelated.cases⟩

end Protocol

attribute [local instance] Groups.closed in
/-- Over residues a known account and an unknown one are answered, and the answers look alike. -/
theorem answer_alike_of_registered_residue :
    ∃ setup state answered result record request x x',
      ServerSetup.make Residue.plainSuite (Bytes.zeros 32) (Bytes.ofNat 28 1) = .ok setup ∧
      (Registration.finish state (Bytes.ofString "secret") answered {} ⟨.steady, []⟩).1 =
        .ok result ∧
      result.upload.suite = Residue.plainSuite ∧
      Registration.store (.message (.registrationUpload result.upload)) = .ok record ∧
      ((answer (.message (.credentialRequest request)) (some (.record record))
        (Bytes.ofString "alice") setup {}).runOn ⟨.steady, []⟩).1 = .ok x ∧
      ((answer (.message (.credentialRequest request)) none (Bytes.ofString "alice") setup
        {}).runOn ⟨.steady, []⟩).1 = .ok x' ∧ LookAlike x.1 x'.1 := by
  obtain ⟨setup, record, exportKey, session, hmake, hregistered, hsession⟩ := exists_session_residue
  obtain ⟨hsuite, holds⟩ := ServerSetup.holds_of_make hmake
  have lawful : setup.suite.Lawful := hsuite ▸ Residue.plainSuite_lawful
  obtain ⟨_, _, _, _, _, -, -, -, enrolled⟩ :=
    Registration.enrolled_of_run lawful holds rfl hregistered
  obtain ⟨state, secret, item, result, hsecret, hfinish, hstore⟩ :=
    Registration.finish_of_run hregistered
  obtain ⟨_, account, request, _, response, serverState, -, haccount, -, hanswer, -, -⟩ :=
    steps_of_run hsession
  cases haccount
  cases Residue.toBytes_secret.symm.trans hsecret
  have hupload : result.upload.suite = Residue.plainSuite := by
    cases hstore
    exact enrolled.suite.trans hsuite
  obtain ⟨-, ⟨err, herr, -⟩ | ⟨x, x', hx, hx', hlook⟩⟩ :=
    answer_alike_of_registered Residue.plainSuite_lawful.exchange hmake hfinish hupload hstore
      request (Bytes.ofString "alice") {} ⟨.steady, []⟩
  · rw [hanswer] at herr
    cases herr
  · exact ⟨setup, state, item, result, record, request, x, x', hmake, hfinish, hupload, hstore, hx,
      hx', hlook⟩

end Apake.Login
