import Apake.Credential.Masking
import Apake.Protocol.State
import Apake.Server.Setup

/-!
# Registration

The client has its password evaluated under a key of the account, seals a fresh private key under
the result and leaves the sealed key with the server.  A finishing step either refuses its arguments
and leaves the state alone, or wipes the state whatever comes of it.
-/

namespace Apake

/-- What may be handed to an operation as a message or as a record. -/
inductive Item
  | message (m : Message)
  | record (r : Record)
  /-- A value that is neither. -/
  | other
  deriving DecidableEq

/-- What a client has after registering: the upload and a key for its own use. -/
structure RegistrationResult where
  upload : RegistrationUpload
  exportKey : Bytes
  deriving DecidableEq

namespace Registration

/-- An argument as a registration request. -/
def asRequest : Item → Except Error RegistrationRequest
  | .message (.registrationRequest m) => .ok m
  | _ => .error (.unexpectedArgument "request" "RegistrationRequest")

/-- An argument as a registration response. -/
def asResponse : Item → Except Error RegistrationResponse
  | .message (.registrationResponse m) => .ok m
  | _ => .error (.unexpectedArgument "response" "RegistrationResponse")

/-- The state and the response of a finishing step, if they fit together. -/
def accept (state : State) (response : Item) :
    Except Error (ClientRegistrationState × RegistrationResponse) := do
  let s ← state.asRegistration
  let r ← asResponse response
  return (← s.consume (some r.suite), r)

/-- The server's last step: the upload becomes the record. -/
def store : Item → Except Error Record
  | .message (.registrationUpload m) => .ok ⟨m⟩
  | _ => .error .uploadRequired

variable [Groups]

/-- The client's first step. -/
def start (s : Suite) (password : Bytes) : Draw (RegistrationRequest × ClientRegistrationState) := do
  let (blinding, blinded) ← Blinding.blind s password
  let message := s.group.encode blinded
  return (⟨s, message⟩, { suite := s, content := ⟨.ofBytes blinding, message⟩ })

/-- The server's first step. -/
def answer (request : Item) (identifier : Bytes) (setup : ServerSetup) :
    Except Error RegistrationResponse := do
  let s := setup.suite
  let r ← asRequest request
  if !r.suite.same s then throw (.argumentOfOtherSuite "Registration request")
  let blinded ← s.group.decodeElement r.blindedMessage "blinded message"
  let key ← setup.accountKey identifier
  return ⟨s, s.group.encode (Blinding.evaluate s blinded key), setup.publicKey⟩

/-- The client's last step, once its arguments are accepted. -/
def complete (s : Suite) (secrets : RegistrationSecrets) (password : Bytes)
    (response : RegistrationResponse) (ids : Identifiers) : Draw RegistrationResult := do
  Blinding.checkNotReflected secrets.blindedMessage response.evaluatedMessage
  let evaluated ← s.group.decodeElement response.evaluatedMessage "evaluated message"
  s.exchange.validatePublicKey response.serverPublicKey "server public key"
  let output ← Blinding.finalize s password (← secrets.blinding.readNat) evaluated
  let randomized ← Blinding.randomize s output
  let privateKey ← s.exchange.randomPrivateKey
  let nonce ← Draw.bytes s.nonceLength
  let envelope ← Envelope.enclose s randomized privateKey response.serverPublicKey nonce ids
  let publicKey ← s.exchange.publicKey privateKey
  return ⟨⟨s, publicKey, Envelope.maskingKey s randomized, envelope⟩,
    Envelope.exportKey s randomized nonce⟩

/-- The client's last step, with what becomes of its state and of the entropy supply. -/
def finish (state : State) (password : Bytes) (response : Item) (ids : Identifiers)
    (entropy : Entropy) : Except Error RegistrationResult × State × Entropy :=
  match accept state response with
  | .error e => (.error e, state, entropy)
  | .ok (s, r) =>
    let (result, entropy) := (complete s.suite s.content password r ids).runOn entropy
    (result, .registration s.zeroize, entropy)

end Registration

end Apake
