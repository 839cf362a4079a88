import Apake.Proofs.Protocol.Completeness

/-!
# What is sent arrives

Whatever its arguments are, a message that a step returns has the sizes of its class, and its
elements and keys are valid: elements are multiples by scalars of elements other than the identity,
and public keys are made from private ones.  So the other side reads it as it was sent, and a run
over the wire ends as one does in which the messages themselves are handed over.
-/

namespace Apake

section Delivery

variable [Groups]

namespace Message

variable {m : Message} {s : Suite}

/-- A message that is written and read back as it is. -/
def Arrives (m : Message) : Prop := ∃ bs, m.toBytes = .ok bs ∧ ofBytes m.kind m.suite bs = .ok m

/-- A message arrives if its fields have their sizes and its elements and keys are valid. -/
theorem arrives_of_valid (hsizes : m.parts.map List.length = m.kind.sizes m.suite)
    (hfits : m.CarriesFitting) (hvalid : m.validate = .ok ()) : m.Arrives := by
  have hbytes : m.toBytes = .ok m.parts.flatten := toBytes_eq_ok_iff.mpr ⟨hsizes, rfl⟩
  exact ⟨_, hbytes, ofBytes_of_toBytes hfits hvalid hbytes⟩

/-- Hands a message over the wire to a side that uses a given suite. -/
def deliver (s : Suite) (m : Message) : Except Error Message := do
  ofBytes m.kind s (← m.toBytes)

/-- A message that arrives is delivered as it is. -/
theorem Arrives.deliver_eq (h : m.Arrives) (hsuite : m.suite = s) : deliver s m = .ok m := by
  obtain ⟨bs, hbytes, hread⟩ := h
  exact Except.bind_of_ok hbytes (hsuite ▸ hread)

end Message

/-- Bytes that a group of the suite reads as an element. -/
def Suite.IsElement (s : Suite) (bs : Bytes) : Prop :=
  bs.length = s.elementLength ∧ ∀ name, ∃ e, s.group.decodeElement bs name = .ok e

/-- Bytes that the key exchange of the suite takes as a public key. -/
def Suite.IsPublicKey (s : Suite) (bs : Bytes) : Prop :=
  bs.length = s.publicLength ∧ ∀ name, s.exchange.validatePublicKey bs name = .ok ()

variable {s : Suite}

/-- The public key of a private key is one. -/
theorem Suite.isPublicKey_of_publicKey (regular : s.exchange.Regular) {sk pk : Bytes}
    (h : s.exchange.publicKey sk = .ok pk) : s.IsPublicKey pk :=
  ⟨regular.length_of_publicKey h, regular.validatePublicKey_of_publicKey h⟩

/-- Elements other than the identity are written as elements. -/
theorem Suite.isElement_encode {Member : s.group.Element → Prop} (laws : s.group.Laws Member)
    {e : s.group.Element} (he : Member e) (hne : e ≠ s.group.identity) :
    s.IsElement (s.group.encode e) :=
  ⟨laws.length_encode he, fun name ↦ ⟨e, laws.decodeElement_encode he hne name⟩⟩

namespace Message

/-- A request to register arrives if it holds an element. -/
theorem arrives_registrationRequest {m : RegistrationRequest}
    (helement : m.suite.IsElement m.blindedMessage) : (registrationRequest m).Arrives := by
  obtain ⟨hlength, hdecode⟩ := helement
  obtain ⟨e, he⟩ := hdecode "blinded message"
  exact arrives_of_valid (congrArg (fun n ↦ [n]) hlength) trivial (Except.bind_of_ok he rfl)

/-- An answer to a registration arrives if it holds an element and a public key. -/
theorem arrives_registrationResponse {m : RegistrationResponse}
    (helement : m.suite.IsElement m.evaluatedMessage)
    (hkey : m.suite.IsPublicKey m.serverPublicKey) : (registrationResponse m).Arrives := by
  obtain ⟨hlength, hdecode⟩ := helement
  obtain ⟨e, he⟩ := hdecode "evaluated message"
  have hsizes : [m.evaluatedMessage.length, m.serverPublicKey.length] =
      [m.suite.elementLength, m.suite.publicLength] := by rw [hlength, hkey.1]
  exact arrives_of_valid hsizes trivial (Except.bind_of_ok he (hkey.2 _))

/-- An upload arrives if it holds a public key, a masking key of its size and a fitting envelope. -/
theorem arrives_registrationUpload {m : RegistrationUpload}
    (hkey : m.suite.IsPublicKey m.clientPublicKey)
    (hmasking : m.maskingKey.length = m.suite.hashLength) (hfits : m.envelope.Fits m.suite) :
    (registrationUpload m).Arrives := by
  have hsizes : [m.clientPublicKey.length, m.maskingKey.length,
      (m.envelope.toBytes m.suite).length] =
      [m.suite.publicLength, m.suite.hashLength, m.suite.envelopeLength] := by
    rw [hkey.1, hmasking, Envelope.length_toBytes]
  exact arrives_of_valid hsizes hfits (hkey.2 _)

/-- A request to log in arrives if it is written and holds an element and a public key. -/
theorem arrives_credentialRequest {m : CredentialRequest} {bs : Bytes}
    (hbytes : (credentialRequest m).toBytes = .ok bs)
    (helement : m.suite.IsElement m.blindedMessage) (hkey : m.suite.IsPublicKey m.clientKeyshare) :
    (credentialRequest m).Arrives := by
  obtain ⟨e, he⟩ := helement.2 "blinded message"
  exact ⟨bs, hbytes, ofBytes_of_toBytes trivial (Except.bind_of_ok he (hkey.2 _)) hbytes⟩

/-- An answer to a login arrives if it holds an element, a public key and strings of the right
sizes. -/
theorem arrives_credentialResponse {m : CredentialResponse}
    (helement : m.suite.IsElement m.evaluatedMessage)
    (hmaskingNonce : m.maskingNonce.length = m.suite.nonceLength)
    (hmasked : m.maskedResponse.length = m.suite.maskedLength)
    (hserverNonce : m.serverNonce.length = m.suite.nonceLength)
    (hkey : m.suite.IsPublicKey m.serverKeyshare)
    (hmac : m.serverMac.length = m.suite.hashLength) : (credentialResponse m).Arrives := by
  obtain ⟨hlength, hdecode⟩ := helement
  obtain ⟨e, he⟩ := hdecode "evaluated message"
  have hsizes : [m.evaluatedMessage.length, m.maskingNonce.length, m.maskedResponse.length,
      m.serverNonce.length, m.serverKeyshare.length, m.serverMac.length] =
      [m.suite.elementLength, m.suite.nonceLength, m.suite.maskedLength, m.suite.nonceLength,
        m.suite.publicLength, m.suite.hashLength] := by
    rw [hlength, hmaskingNonce, hmasked, hserverNonce, hkey.1, hmac]
  exact arrives_of_valid hsizes trivial (Except.bind_of_ok he (hkey.2 _))

/-- A confirmation arrives if it has the size of a tag. -/
theorem arrives_credentialFinalization {m : CredentialFinalization}
    (hmac : m.clientMac.length = m.suite.hashLength) : (credentialFinalization m).Arrives :=
  arrives_of_valid (congrArg (fun n ↦ [n]) hmac) trivial rfl

end Message

namespace Blinding

/-- A blinded password is sent as an element. -/
theorem isElement_of_hides (lawful : s.group.Lawful) {password blinding : Bytes}
    {point blinded : s.group.Element} (hpoint : s.group.hash password (tag s) = .ok point)
    (hides : Hides s point blinding blinded) : s.IsElement (s.group.encode blinded) := by
  obtain ⟨Member, laws⟩ := lawful
  obtain ⟨hmem, hne⟩ := laws.mem_of_hash hpoint
  obtain ⟨r, hr, -, rfl⟩ := hides
  exact Suite.isElement_encode laws (laws.multiply_mem r hmem)
    (laws.multiply_ne_identity (PrimeGroup.Laws.emod_ne_zero hr) hmem hne)

/-- The evaluation of an element that was read is sent as an element. -/
theorem isElement_evaluate (lawful : s.group.Lawful) {bs : Bytes} {name : String}
    {blinded : s.group.Element} {key : Nat} (hread : s.group.decodeElement bs name = .ok blinded)
    (hkey : s.group.IsScalar key) : s.IsElement (s.group.encode (evaluate s blinded key)) := by
  obtain ⟨Member, laws⟩ := lawful
  obtain ⟨-, hdecode, hid⟩ := PrimeGroup.decodeElement_eq_ok_iff.mp hread
  have hmem := laws.decode_mem hdecode
  have hne := (laws.isIdentity_eq_false_iff hmem).mp hid
  exact Suite.isElement_encode laws (laws.multiply_mem key hmem)
    (laws.multiply_ne_identity (PrimeGroup.Laws.emod_ne_zero hkey) hmem hne)

end Blinding

namespace ServerSetup

variable {setup : ServerSetup} {identifier : Bytes}

/-- A setup that was made, and perhaps wiped since. -/
inductive Reached : ServerSetup → Prop
  | made {s : Suite} {seed privateKey : Bytes} {setup : ServerSetup} :
    make s seed privateKey = .ok setup → Reached setup
  | wiped {setup : ServerSetup} : Reached setup → Reached setup.wipe

/-- The public key of a setup and its stand-in key are public keys. -/
theorem Reached.isPublicKey (reached : setup.Reached) (regular : setup.suite.exchange.Regular) :
    setup.suite.IsPublicKey setup.publicKey ∧ setup.suite.IsPublicKey setup.standInKey := by
  induction reached with
  | made hmake =>
    obtain ⟨-, holds⟩ := holds_of_make hmake
    obtain ⟨sk, hstandIn⟩ := holds.standInKey
    exact ⟨Suite.isPublicKey_of_publicKey regular holds.publicKey,
      Suite.isPublicKey_of_publicKey regular hstandIn⟩
  | wiped _ ih => exact ih regular

/-- The keys of accounts are scalars. -/
theorem isScalar_accountKey (lawful : setup.suite.group.Lawful) {key : Nat}
    (h : setup.accountKey identifier = .ok key) : setup.suite.group.IsScalar key := by
  obtain ⟨seed, -, hkey⟩ := Except.bind_eq_ok_iff.mp h
  exact Blinding.isScalar_of_accountKey lawful hkey

/-- A stand-in record is of the server's suite. -/
theorem suite_of_standIn {upload : RegistrationUpload}
    (h : setup.standIn identifier = .ok upload) : upload.suite = setup.suite := by
  obtain ⟨_, -, h⟩ := Except.bind_eq_ok_iff.mp h
  cases h
  rfl

/-- A stand-in record arrives. -/
theorem arrives_of_standIn (reached : setup.Reached) (regular : setup.suite.exchange.Regular)
    {upload : RegistrationUpload} (h : setup.standIn identifier = .ok upload) :
    (Message.registrationUpload upload).Arrives := by
  obtain ⟨seed, -, h⟩ := Except.bind_eq_ok_iff.mp h
  cases h
  refine Message.arrives_registrationUpload (reached.isPublicKey regular).2 ?_ ?_
  · exact setup.suite.hash.length_expand _ _ _
  · exact (Envelope.toBytes_split (setup.suite.hash.length_expand _ _ _)).1

end ServerSetup

namespace Registration

/-- A first step leaves a request and a fresh state of the client's suite. -/
theorem suite_of_start {password : Bytes} {entropy : Entropy} {request : RegistrationRequest}
    {state : ClientRegistrationState}
    (h : ((start s password).runOn entropy).1 = .ok (request, state)) :
    request.suite = s ∧ state.suite = s ∧ state.consumed = false := by
  obtain ⟨_, _, -, h⟩ := Draw.runOn_bind_eq_ok_iff.mp (Draw.runOn_of_fst h)
  cases h
  exact ⟨rfl, rfl, rfl⟩

/-- A request to register arrives. -/
theorem arrives_of_start (lawful : s.group.Lawful) {password : Bytes} {entropy : Entropy}
    {request : RegistrationRequest} {state : ClientRegistrationState}
    (h : ((start s password).runOn entropy).1 = .ok (request, state)) :
    (Message.registrationRequest request).Arrives := by
  obtain ⟨point, blinding, blinded, hpoint, hides, rfl, -⟩ := started_of_start lawful h
  exact Message.arrives_registrationRequest (Blinding.isElement_of_hides lawful hpoint hides)

/-- An answer to a registration is of the server's suite. -/
theorem suite_of_answer {setup : ServerSetup} {request : Item} {identifier : Bytes}
    {response : RegistrationResponse} (h : answer request identifier setup = .ok response) :
    response.suite = setup.suite := by
  unfold answer at h
  obtain ⟨_, -, h⟩ := Except.bind_eq_ok_iff.mp h
  obtain ⟨-, h⟩ := Except.refuseIf_eq_ok_iff.mp h
  obtain ⟨_, -, h⟩ := Except.bind_eq_ok_iff.mp h
  obtain ⟨_, -, h⟩ := Except.bind_eq_ok_iff.mp h
  cases h
  rfl

/-- An answer to a registration arrives, whatever was asked. -/
theorem arrives_of_answer {setup : ServerSetup} (reached : setup.Reached)
    (lawful : setup.suite.group.Lawful) (regular : setup.suite.exchange.Regular) {request : Item}
    {identifier : Bytes} {response : RegistrationResponse}
    (h : answer request identifier setup = .ok response) :
    (Message.registrationResponse response).Arrives := by
  obtain ⟨r, hr, -⟩ := Except.bind_eq_ok_iff.mp h
  obtain rfl : request = .message (.registrationRequest r) := by
    unfold asRequest at hr
    split at hr
    · cases hr
      rfl
    · cases hr
  obtain ⟨blinded, key, hblinded, hkey, rfl⟩ := answer_eq_ok h
  exact Message.arrives_registrationResponse
    (Blinding.isElement_evaluate lawful hblinded (ServerSetup.isScalar_accountKey lawful hkey))
    (reached.isPublicKey regular).1

/-- What a registration leaves behind arrives. -/
theorem arrives_of_enrolled {serverKey randomized : Bytes} {ids : Identifiers}
    {result : RegistrationResult} (regular : s.exchange.Regular)
    (enrolled : Enrolled s serverKey ids randomized result) :
    (Message.registrationUpload result.upload).Arrives := by
  obtain ⟨sk, nonce, hpublic, hsealed⟩ := enrolled.sealed
  obtain ⟨-, hfits, -⟩ := Envelope.recover_of_enclose hsealed
  obtain rfl := enrolled.suite
  refine Message.arrives_registrationUpload (Suite.isPublicKey_of_publicKey regular hpublic) ?_ hfits
  rw [enrolled.maskingKey]
  exact result.upload.suite.hash.length_expand _ _ _

/-- The upload of a last step arrives, whatever state and response it was given. -/
theorem arrives_of_finish {state : State} {password : Bytes} {response : Item} {ids : Identifiers}
    {entropy : Entropy} {result : RegistrationResult}
    (h : (finish state password response ids entropy).1 = .ok result)
    (regular : result.upload.suite.exchange.Regular) :
    (Message.registrationUpload result.upload).Arrives := by
  unfold finish at h
  split at h
  · cases h
  · next held r _ =>
    have hcomplete : ((complete held.suite held.content password r ids).runOn entropy).1 =
        .ok result := h
    obtain ⟨-, _, _, _, _, -, -, -, -, enrolled⟩ :=
      enrolled_of_complete (Draw.runOn_of_fst hcomplete)
    exact arrives_of_enrolled (enrolled.suite ▸ regular) enrolled

end Registration

namespace Login

/-- A request to log in arrives. -/
theorem arrives_of_start (lawful : s.group.Lawful) (regular : s.exchange.Regular) {password : Bytes}
    {entropy : Entropy} {request : CredentialRequest} {state : ClientLoginState}
    (h : ((start s password).runOn entropy).1 = .ok (request, state)) :
    (Message.credentialRequest request).Arrives := by
  obtain ⟨⟨blinding, blinded⟩, e₁, hblind, h⟩ :=
    Draw.runOn_bind_eq_ok_iff.mp (Draw.runOn_of_fst h)
  obtain ⟨point, hpoint, hides⟩ := Blinding.hides_of_blind lawful hblind
  obtain ⟨nonce, e₂, -, h⟩ := Draw.runOn_bind_eq_ok_iff.mp h
  obtain ⟨ephemeralKey, e₃, -, h⟩ := Draw.runOn_bind_eq_ok_iff.mp h
  obtain ⟨keyshare, hkeyshare, h⟩ := Draw.runOn_lift_bind_eq_ok_iff.mp h
  obtain ⟨wire, hwire, h⟩ := Draw.runOn_lift_bind_eq_ok_iff.mp h
  cases h
  exact Message.arrives_credentialRequest hwire (Blinding.isElement_of_hides lawful hpoint hides)
    (Suite.isPublicKey_of_publicKey regular hkeyshare)

private theorem answered_of_answer {setup : ServerSetup} {request : Item} {record : Option Item}
    {identifier : Bytes} {params : LoginParameters} {entropy : Entropy}
    {response : CredentialResponse} {state : ServerLoginState}
    (h : ((answer request record identifier setup params).runOn entropy).1 =
      .ok (response, state)) :
    ∃ upload r blinded key privateKey ephemeralKey wire transcript shared,
      setup.suite.group.decodeElement r.blindedMessage "blinded message" = .ok blinded ∧
      setup.accountKey identifier = .ok key ∧
      response.evaluatedMessage =
        setup.suite.group.encode (Blinding.evaluate setup.suite blinded key) ∧
      Answered setup upload params r privateKey ephemeralKey wire transcript shared response
        state := by
  obtain ⟨r, hr, -⟩ := Draw.runOn_lift_bind_eq_ok_iff.mp (Draw.runOn_of_fst h)
  obtain rfl : request = .message (.credentialRequest r) := by
    unfold asRequest at hr
    split at hr
    · cases hr
      rfl
    · cases hr
  obtain ⟨upload, -, -, h⟩ := runOn_answer_eq_ok_iff.mp (Draw.runOn_of_fst h)
  exact ⟨upload, r, answered_of_respond h⟩

/-- An answer to a login is of the server's suite. -/
theorem suite_of_answer {setup : ServerSetup} {request : Item} {record : Option Item}
    {identifier : Bytes} {params : LoginParameters} {entropy : Entropy}
    {response : CredentialResponse} {state : ServerLoginState}
    (h : ((answer request record identifier setup params).runOn entropy).1 =
      .ok (response, state)) : response.suite = setup.suite := by
  obtain ⟨_, _, _, _, _, _, _, _, _, -, -, -, answered⟩ := answered_of_answer h
  exact answered.suite

/-- An answer to a login arrives, whatever was asked and whatever record it was made from. -/
theorem arrives_of_answer {setup : ServerSetup} (lawful : setup.suite.group.Lawful)
    (regular : setup.suite.exchange.Regular) {request : Item} {record : Option Item}
    {identifier : Bytes} {params : LoginParameters} {entropy : Entropy}
    {response : CredentialResponse} {state : ServerLoginState}
    (h : ((answer request record identifier setup params).runOn entropy).1 =
      .ok (response, state)) : (Message.credentialResponse response).Arrives := by
  obtain ⟨upload, r, blinded, key, sk, ephemeralKey, wire, transcript, shared, hblinded, hkey,
    hevaluated, answered⟩ := answered_of_answer h
  have helement :=
    Blinding.isElement_evaluate lawful hblinded (ServerSetup.isScalar_accountKey lawful hkey)
  rw [← hevaluated] at helement
  have hkeyshare := Suite.isPublicKey_of_publicKey regular answered.keyshare
  have hmac : response.serverMac.length = setup.suite.hashLength := by
    rw [answered.mac]
    exact setup.suite.hash.length_mac _ _
  obtain ⟨s', _, _, _, _, _, _⟩ := response
  obtain rfl : s' = setup.suite := answered.suite
  exact Message.arrives_credentialResponse helement answered.maskingNonce
    (Masking.length_of_mask answered.masked) answered.serverNonce hkeyshare hmac

/-- The confirmation of a last step arrives, whatever state and response it was given. -/
theorem arrives_of_finish {state : State} {response : Item} {params : LoginParameters}
    {result : LoginResult} (h : (finish state response params).1 = .ok result) :
    (Message.credentialFinalization result.message).Arrives := by
  unfold finish at h
  split at h
  · cases h
  · next held r _ =>
    have hcomplete : complete held.suite held.content r params = .ok result := h
    obtain ⟨_, _, _, _, completed⟩ := completed_of_complete hcomplete
    apply Message.arrives_credentialFinalization
    rw [completed.message]
    exact held.suite.hash.length_mac _ _

end Login

/-- The steps that send a message, with their arguments. -/
inductive Sending
  | registrationRequest (s : Suite) (password : Phrase) (entropy : Entropy)
  | registrationResponse (setup : ServerSetup) (request : Item) (identifier : Phrase)
  | registrationUpload (state : State) (password : Phrase) (response : Item) (ids : Identifiers)
    (entropy : Entropy)
  | standIn (setup : ServerSetup) (identifier : Phrase)
  | credentialRequest (s : Suite) (password : Phrase) (entropy : Entropy)
  | credentialResponse (setup : ServerSetup) (request : Item) (record : Option Item)
    (identifier : Phrase) (params : LoginParameters) (entropy : Entropy)
  | credentialFinalization (state : State) (response : Item) (params : LoginParameters)

namespace Sending

omit [Groups] in
/-- The setup of the server that takes a step. -/
def server? : Sending → Option ServerSetup
  | registrationResponse setup .. | standIn setup .. | credentialResponse setup .. => some setup
  | _ => none

/-- The message that a step returns. -/
def message : Sending → Except Error Message
  | registrationRequest s password entropy => do
    let (m, _) ← ((Registration.start s (← password.toBytes)).runOn entropy).1
    return .registrationRequest m
  | registrationResponse setup request identifier => do
    return .registrationResponse (← Registration.answer request (← identifier.toBytes) setup)
  | registrationUpload state password response ids entropy => do
    let result ← (Registration.finish state (← password.toBytes) response ids entropy).1
    return .registrationUpload result.upload
  | standIn setup identifier => do
    return .registrationUpload (← setup.standIn (← identifier.toBytes))
  | credentialRequest s password entropy => do
    let (m, _) ← ((Login.start s (← password.toBytes)).runOn entropy).1
    return .credentialRequest m
  | credentialResponse setup request record identifier params entropy => do
    let (m, _) ←
      ((Login.answer request record (← identifier.toBytes) setup params).runOn entropy).1
    return .credentialResponse m
  | credentialFinalization state response params => do
    let result ← (Login.finish state response params).1
    return .credentialFinalization result.message

/-- Whatever a step sends arrives. -/
theorem arrives {x : Sending} {m : Message} (lawful : m.suite.group.Lawful)
    (regular : m.suite.exchange.Regular) (hserver : ∀ setup ∈ x.server?, setup.Reached)
    (h : x.message = .ok m) : m.Arrives := by
  cases x with
  | registrationRequest s password entropy =>
    obtain ⟨bytes, -, h⟩ := Except.bind_eq_ok_iff.mp h
    obtain ⟨⟨request, state⟩, hstart, h⟩ := Except.bind_eq_ok_iff.mp h
    cases h
    obtain ⟨hsuite, -, -⟩ := Registration.suite_of_start hstart
    exact Registration.arrives_of_start (hsuite ▸ lawful) hstart
  | registrationResponse setup request identifier =>
    obtain ⟨bytes, -, h⟩ := Except.bind_eq_ok_iff.mp h
    obtain ⟨response, hanswer, h⟩ := Except.bind_eq_ok_iff.mp h
    cases h
    have hsuite : response.suite = setup.suite := Registration.suite_of_answer hanswer
    exact Registration.arrives_of_answer (hserver setup rfl) (hsuite ▸ lawful) (hsuite ▸ regular)
      hanswer
  | registrationUpload state password response ids entropy =>
    obtain ⟨bytes, -, h⟩ := Except.bind_eq_ok_iff.mp h
    obtain ⟨result, hfinish, h⟩ := Except.bind_eq_ok_iff.mp h
    cases h
    exact Registration.arrives_of_finish hfinish regular
  | standIn setup identifier =>
    obtain ⟨bytes, -, h⟩ := Except.bind_eq_ok_iff.mp h
    obtain ⟨upload, hupload, h⟩ := Except.bind_eq_ok_iff.mp h
    cases h
    have hsuite : upload.suite = setup.suite := ServerSetup.suite_of_standIn hupload
    exact ServerSetup.arrives_of_standIn (hserver setup rfl) (hsuite ▸ regular) hupload
  | credentialRequest s password entropy =>
    obtain ⟨bytes, -, h⟩ := Except.bind_eq_ok_iff.mp h
    obtain ⟨⟨request, state⟩, hstart, h⟩ := Except.bind_eq_ok_iff.mp h
    cases h
    obtain ⟨-, hsuite, -⟩ := Login.started_of_start (Draw.runOn_of_fst hstart)
    exact Login.arrives_of_start (hsuite ▸ lawful) (hsuite ▸ regular) hstart
  | credentialResponse setup request record identifier params entropy =>
    obtain ⟨bytes, -, h⟩ := Except.bind_eq_ok_iff.mp h
    obtain ⟨⟨response, state⟩, hanswer, h⟩ := Except.bind_eq_ok_iff.mp h
    cases h
    have hsuite : response.suite = setup.suite := Login.suite_of_answer hanswer
    exact Login.arrives_of_answer (hsuite ▸ lawful) (hsuite ▸ regular) hanswer
  | credentialFinalization state response params =>
    obtain ⟨result, hfinish, h⟩ := Except.bind_eq_ok_iff.mp h
    cases h
    exact Login.arrives_of_finish hfinish

end Sending

/-- A whole registration in which each message is passed on by a given function. -/
def Registration.runVia (pass : Message → Except Error Message) (setup : ServerSetup)
    (identifier password again : Phrase) (ids : Identifiers) (starting finishing : Entropy) :
    Except Error (Record × Bytes) := do
  let bytes ← password.toBytes
  let (request, state) ← ((start setup.suite bytes).runOn starting).1
  let received ← pass (.registrationRequest request)
  let bytes ← identifier.toBytes
  let response ← answer (.message received) bytes setup
  let received ← pass (.registrationResponse response)
  let bytes ← again.toBytes
  let result ← (finish (.registration state) bytes (.message received) ids finishing).1
  let received ← pass (.registrationUpload result.upload)
  let record ← store (.message received)
  return (record, result.exportKey)

/-- A whole login, with a record or without one, in which each message is passed on by a given
function. -/
def Login.runVia (pass : Message → Except Error Message) (setup : ServerSetup)
    (record : Option Item) (identifier password : Phrase) (params : LoginParameters)
    (client server : Entropy) : Except Error RecordStore.Session := do
  let bytes ← password.toBytes
  let (request, clientState) ← ((start setup.suite bytes).runOn client).1
  let received ← pass (.credentialRequest request)
  let bytes ← identifier.toBytes
  let (response, serverState) ←
    ((answer (.message received) record bytes setup params).runOn server).1
  let received ← pass (.credentialResponse response)
  let result ← (finish (.login clientState) (.message received) params).1
  let received ← pass (.credentialFinalization result.message)
  let key ← (confirm (.pending serverState) (.message received)).1
  return ⟨result, key⟩

section Runs

variable {setup : ServerSetup}

/-- A registration over the wire ends as one in which the messages are handed over. -/
theorem Registration.runVia_deliver (reached : setup.Reached) (lawful : setup.suite.group.Lawful)
    (regular : setup.suite.exchange.Regular) (identifier password again : Phrase)
    (ids : Identifiers) (starting finishing : Entropy) :
    runVia (Message.deliver setup.suite) setup identifier password again ids starting finishing =
      runVia .ok setup identifier password again ids starting finishing := by
  -- Each message in turn arrives, so both chains go on with the same one.
  refine Except.bind_eq_bind rfl fun secret _ ↦ ?_
  refine Except.bind_eq_bind rfl fun ⟨request, state⟩ hstart ↦ ?_
  obtain ⟨hrequest, hstate, hfresh⟩ := suite_of_start hstart
  refine Except.bind_eq_bind ((arrives_of_start lawful hstart).deliver_eq hrequest) fun _ h ↦ ?_
  cases h
  refine Except.bind_eq_bind rfl fun account _ ↦ Except.bind_eq_bind rfl fun response hanswer ↦ ?_
  have hresponse := suite_of_answer hanswer
  refine Except.bind_eq_bind
    ((arrives_of_answer reached lawful regular hanswer).deliver_eq hresponse) fun _ h ↦ ?_
  cases h
  refine Except.bind_eq_bind rfl fun secret' _ ↦ Except.bind_eq_bind rfl fun result hfinish ↦ ?_
  rw [finish_of_fresh hfresh (Suite.same_of_eq (hresponse.trans hstate.symm)), hstate] at hfinish
  obtain ⟨-, _, _, _, _, -, -, -, -, enrolled⟩ := enrolled_of_complete (Draw.runOn_of_fst hfinish)
  refine Except.bind_eq_bind
    ((arrives_of_enrolled regular enrolled).deliver_eq enrolled.suite) fun _ h ↦ ?_
  cases h
  rfl

/-- A login over the wire ends as one in which the messages are handed over. -/
theorem Login.runVia_deliver (lawful : setup.suite.group.Lawful)
    (regular : setup.suite.exchange.Regular) (record : Option Item) (identifier password : Phrase)
    (params : LoginParameters) (client server : Entropy) :
    runVia (Message.deliver setup.suite) setup record identifier password params client server =
      runVia .ok setup record identifier password params client server := by
  refine Except.bind_eq_bind rfl fun secret _ ↦ ?_
  refine Except.bind_eq_bind rfl fun ⟨request, clientState⟩ hstart ↦ ?_
  obtain ⟨hstate, hrequest, -⟩ := started_of_start (Draw.runOn_of_fst hstart)
  refine Except.bind_eq_bind
    ((arrives_of_start lawful regular hstart).deliver_eq hrequest) fun _ h ↦ ?_
  cases h
  refine Except.bind_eq_bind rfl fun account _ ↦ ?_
  refine Except.bind_eq_bind rfl fun ⟨response, serverState⟩ hanswer ↦ ?_
  refine Except.bind_eq_bind
    ((arrives_of_answer lawful regular hanswer).deliver_eq (suite_of_answer hanswer)) fun _ h ↦ ?_
  cases h
  refine Except.bind_eq_bind rfl fun result hfinish ↦ ?_
  obtain ⟨-, -, hcomplete⟩ := finish_eq_ok_iff.mp hfinish
  obtain ⟨_, _, _, _, completed⟩ := completed_of_complete hcomplete
  have hmessage : result.message.suite = setup.suite := by
    rw [completed.message]
    exact hstate
  refine Except.bind_eq_bind ((arrives_of_finish hfinish).deliver_eq hmessage) fun _ h ↦ ?_
  cases h
  rfl

end Runs

/-- Where a suite obeys its laws, whatever a step sends is read by the other side as it was sent, and
registrations and logins over the wire end as those in which the messages are handed over. -/
theorem Sending.arrives_and_runs_agree (lawful : s.group.Lawful) (regular : s.exchange.Regular) :
    (∀ (x : Sending) (m : Message), (∀ setup ∈ x.server?, setup.Reached) → x.message = .ok m →
      m.suite = s → ∃ bs, m.toBytes = .ok bs ∧ Message.ofBytes m.kind s bs = .ok m) ∧
    ∀ setup : ServerSetup, setup.Reached → setup.suite = s →
      (∀ identifier password again ids starting finishing,
        Registration.runVia (Message.deliver s) setup identifier password again ids starting
            finishing =
          Registration.runVia .ok setup identifier password again ids starting finishing) ∧
      ∀ record identifier password params client server,
        Login.runVia (Message.deliver s) setup record identifier password params client server =
          Login.runVia .ok setup record identifier password params client server := by
  refine ⟨fun x m hserver h hsuite ↦ ?_, fun setup reached hsuite ↦ ?_⟩
  · obtain rfl := hsuite
    exact arrives lawful regular hserver h
  · obtain rfl := hsuite
    exact ⟨Registration.runVia_deliver reached lawful regular, Login.runVia_deliver lawful regular⟩

end Delivery

attribute [local instance] Groups.closed in
/-- The account over residues is registered and logs in over the wire as it does without. -/
theorem Sending.arrives_and_runs_agree_residue : ∃ setup record exportKey session,
    ServerSetup.make Residue.plainSuite (Bytes.zeros 32) (Bytes.ofNat 28 1) = .ok setup ∧
      Registration.runVia (Message.deliver Residue.plainSuite) setup Residue.alice Residue.secret
        Residue.secret {} ⟨.steady, []⟩ ⟨.steady, []⟩ = .ok (record, exportKey) ∧
      Login.runVia (Message.deliver Residue.plainSuite) setup (some (.record record))
        (.bytes (Bytes.ofString "alice")) (.bytes (Bytes.ofString "secret")) {} ⟨.steady, []⟩
        ⟨.steady, []⟩ = .ok session := by
  obtain ⟨setup, record, exportKey, session, hmake, hregistered, hsession⟩ :=
    Login.exists_session_residue
  obtain ⟨hsuite, -⟩ := ServerSetup.holds_of_make hmake
  have lawful := Residue.plainSuite_lawful
  obtain ⟨-, hruns⟩ := Sending.arrives_and_runs_agree lawful.group lawful.exchange.regular
  obtain ⟨hregistration, hlogin⟩ := hruns setup (.made hmake) hsuite
  refine ⟨setup, record, exportKey, session, hmake, ?_, ?_⟩
  · rw [hregistration]
    exact hregistered
  · rw [hlogin]
    exact hsession

end Apake
