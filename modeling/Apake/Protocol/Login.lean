import Apake.Handshake.Keys
import Apake.Handshake.Transcript
import Apake.Protocol.Registration

/-!
# Login

The client gets its sealed key back together with an evaluation of its password, and both sides
agree on a session key through three Diffie-Hellman values.  The server answers for an unknown
account as it does for a known one.  A finishing step either refuses its arguments and leaves the
state alone, or wipes the state whatever comes of it.
-/

namespace Apake

/-- What both sides must agree on beforehand. -/
structure LoginParameters where
  context : Bytes := []
  identifiers : Identifiers := {}
  deriving DecidableEq

/-- What a client has after logging in. -/
structure LoginResult where
  message : CredentialFinalization
  sessionKey : Bytes
  exportKey : Bytes
  serverPublicKey : Bytes
  deriving DecidableEq

namespace Login

/-- An argument as a credential request. -/
def asRequest : Item → Except Error CredentialRequest
  | .message (.credentialRequest m) => .ok m
  | _ => .error (.unexpectedArgument "request" "CredentialRequest")

/-- An argument as a credential response. -/
def asResponse : Item → Except Error CredentialResponse
  | .message (.credentialResponse m) => .ok m
  | _ => .error (.unexpectedArgument "response" "CredentialResponse")

/-- An argument as the client's confirmation. -/
def asFinalization : Item → Except Error CredentialFinalization
  | .message (.credentialFinalization m) => .ok m
  | _ => .error (.unexpectedArgument "finalization" "CredentialFinalization")

/-- An argument as a record. -/
def asRecord : Item → Except Error Record
  | .record r => .ok r
  | _ => .error (.unexpectedArgument "record" "ServerRegistration or None")

/-- An explicit identity, or the public key where it is absent or empty. -/
def identity (explicit : Option Bytes) (publicKey : Bytes) : Bytes :=
  match explicit with
  | none | some [] => publicKey
  | some bs => bs

/-- The state and the response of the client's last step, if they fit together. -/
def accept (state : State) (response : Item) :
    Except Error (ClientLoginState × CredentialResponse) := do
  let s ← state.asLogin
  let r ← asResponse response
  return (← s.consume (some r.suite), r)

/-- The state and the confirmation of the server's last step, if they fit together. -/
def acceptFinalization (state : State) (finalization : Item) :
    Except Error (ServerLoginState × CredentialFinalization) := do
  let s ← state.asPending
  let f ← asFinalization finalization
  return (← s.consume (some f.suite), f)

/-- The session key, if the client's confirmation is the one expected. -/
def release (secrets : PendingSecrets) (f : CredentialFinalization) : Except Error Bytes := do
  SessionKeys.checkClient (← secrets.expectedMac.read) f.clientMac
  secrets.sessionKey.read

/-- The server's last step, with what becomes of its state. -/
def confirm (state : State) (finalization : Item) : Except Error Bytes × State :=
  match acceptFinalization state finalization with
  | .error e => (.error e, state)
  | .ok (s, f) => (release s.content f, .pending s.zeroize)

variable [Groups]

/-- The client's first step. -/
def start (s : Suite) (password : Bytes) : Draw (CredentialRequest × ClientLoginState) := do
  let (blinding, blinded) ← Blinding.blind s password
  let message := s.group.encode blinded
  let nonce ← Draw.bytes s.nonceLength
  let ephemeralKey ← s.exchange.randomPrivateKey
  let request : CredentialRequest := ⟨s, message, nonce, ← s.exchange.publicKey ephemeralKey⟩
  let wire ← (Message.credentialRequest request).toBytes
  return (request,
    { suite := s
      content := ⟨.ofBytes password, .ofBytes blinding, message, .ofBytes ephemeralKey, wire⟩ })

/-- The upload of the account, or a stand-in where there is no account. -/
def uploadOf (record : Option Item) (identifier : Bytes) (setup : ServerSetup) :
    Except Error RegistrationUpload :=
  match record with
  | none => setup.standIn identifier
  | some item => do
    let r ← asRecord item
    if !r.suite.same setup.suite then throw (.argumentOfOtherSuite "Record")
    return r.upload

/-- The server's answer to an accepted request from the account that an upload stands for. -/
def respond (setup : ServerSetup) (upload : RegistrationUpload) (request : CredentialRequest)
    (identifier : Bytes) (params : LoginParameters) :
    Draw (CredentialResponse × ServerLoginState) := do
  let s := setup.suite
  let blinded ← s.group.decodeElement request.blindedMessage "blinded message"
  s.exchange.validatePublicKey request.clientKeyshare "client keyshare"
  let evaluated := s.group.encode (Blinding.evaluate s blinded (← setup.accountKey identifier))
  let maskingNonce ← Draw.bytes s.nonceLength
  let masked ← Masking.mask s upload.maskingKey maskingNonce setup.publicKey upload.envelope
  let serverNonce ← Draw.bytes s.nonceLength
  let ephemeralKey ← s.exchange.randomPrivateKey
  let serverKeyshare ← s.exchange.publicKey ephemeralKey
  let wire ← (Message.credentialRequest request).toBytes
  let transcript ← Transcript.toBytes
    { context := params.context
      clientIdentity := identity params.identifiers.client upload.clientPublicKey
      request := wire
      serverIdentity := identity params.identifiers.server setup.publicKey
      credentialPart := evaluated ++ maskingNonce ++ masked
      serverNonce := serverNonce
      serverKeyshare := serverKeyshare }
  let shared ← SessionKeys.serverShared s ephemeralKey (← setup.privateKey.read)
    upload.clientPublicKey request.clientKeyshare
  let keys ← SessionKeys.derive s shared transcript
  let mac := keys.confirmServer s transcript
  return (⟨s, evaluated, maskingNonce, masked, serverNonce, serverKeyshare, mac⟩,
    { suite := s
      content := ⟨.ofBytes (keys.confirmClient s transcript mac), .ofBytes keys.session⟩ })

/-- The server's first step. -/
def answer (request : Item) (record : Option Item) (identifier : Bytes) (setup : ServerSetup)
    (params : LoginParameters) : Draw (CredentialResponse × ServerLoginState) := do
  let r ← asRequest request
  if !r.suite.same setup.suite then throw (.argumentOfOtherSuite "Credential request")
  let upload ← uploadOf record identifier setup
  respond setup upload r identifier params

/-- The client's last step, once its arguments are accepted. -/
def complete (s : Suite) (secrets : LoginSecrets) (response : CredentialResponse)
    (params : LoginParameters) : Except Error LoginResult := do
  Blinding.checkNotReflected secrets.blindedMessage response.evaluatedMessage
  let evaluated ← s.group.decodeElement response.evaluatedMessage "evaluated message"
  let blinding ← secrets.blinding.readNat
  let output ← Blinding.finalize s (← secrets.password.read) blinding evaluated
  let randomized ← Blinding.randomize s output
  let (serverKey, envelope) ← Masking.unmask s (Envelope.maskingKey s randomized)
    response.maskingNonce response.maskedResponse
  let privateKey ← Envelope.recover s randomized envelope serverKey params.identifiers
  let publicKey ← s.exchange.publicKey privateKey
  s.exchange.validatePublicKey serverKey "server public key"
  let shared ← SessionKeys.clientShared s (← secrets.ephemeralKey.read) privateKey serverKey
    response.serverKeyshare
  let transcript ← Transcript.toBytes
    { context := params.context
      clientIdentity := identity params.identifiers.client publicKey
      request := secrets.request
      serverIdentity := identity params.identifiers.server serverKey
      credentialPart := response.credentialPart
      serverNonce := response.serverNonce
      serverKeyshare := response.serverKeyshare }
  let keys ← SessionKeys.derive s shared transcript
  keys.checkServer s transcript response.serverMac
  return ⟨⟨s, keys.confirmClient s transcript response.serverMac⟩, keys.session,
    Envelope.exportKey s randomized envelope.nonce, serverKey⟩

/-- The client's last step, with what becomes of its state. -/
def finish (state : State) (response : Item) (params : LoginParameters) :
    Except Error LoginResult × State :=
  match accept state response with
  | .error e => (.error e, state)
  | .ok (s, r) => (complete s.suite s.content r params, .login s.zeroize)

end Login

end Apake
