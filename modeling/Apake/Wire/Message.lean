import Apake.Credential.Envelope

/-!
# Messages and their wire format

Six classes of messages, each the plain concatenation of its fields in a fixed order; the sizes
depend on the suite alone.  Writing checks the size of every field, reading checks the whole length
first and then every element and key that the message carries.
-/

namespace Apake

/-- The client asks to register. -/
structure RegistrationRequest where
  suite : Suite
  blindedMessage : Bytes
  deriving DecidableEq

/-- The server's answer to a registration. -/
structure RegistrationResponse where
  suite : Suite
  evaluatedMessage : Bytes
  serverPublicKey : Bytes
  deriving DecidableEq

/-- What the client leaves with the server. -/
structure RegistrationUpload where
  suite : Suite
  clientPublicKey : Bytes
  maskingKey : Bytes
  envelope : Envelope
  deriving DecidableEq

/-- The client asks to log in. -/
structure CredentialRequest where
  suite : Suite
  blindedMessage : Bytes
  clientNonce : Bytes
  clientKeyshare : Bytes
  deriving DecidableEq

/-- The server's answer to a login. -/
structure CredentialResponse where
  suite : Suite
  evaluatedMessage : Bytes
  maskingNonce : Bytes
  maskedResponse : Bytes
  serverNonce : Bytes
  serverKeyshare : Bytes
  serverMac : Bytes
  deriving DecidableEq

/-- The client's confirmation. -/
structure CredentialFinalization where
  suite : Suite
  clientMac : Bytes
  deriving DecidableEq

/-- A message of any class. -/
inductive Message
  | registrationRequest (m : RegistrationRequest)
  | registrationResponse (m : RegistrationResponse)
  | registrationUpload (m : RegistrationUpload)
  | credentialRequest (m : CredentialRequest)
  | credentialResponse (m : CredentialResponse)
  | credentialFinalization (m : CredentialFinalization)
  deriving DecidableEq

/-- The classes of messages. -/
inductive MessageKind
  | registrationRequest
  | registrationResponse
  | registrationUpload
  | credentialRequest
  | credentialResponse
  | credentialFinalization
  deriving DecidableEq

/-- A field as a message carries it: a byte string or an envelope. -/
inductive Field
  | bytes (bs : Bytes)
  | envelope (e : Envelope)
  deriving DecidableEq

namespace MessageKind

attribute [local instance (2000)] Zero.ofOfNat0

/-- All classes in the order of the protocol. -/
def all : List MessageKind :=
  [registrationRequest, registrationResponse, registrationUpload, credentialRequest,
    credentialResponse, credentialFinalization]

/-- The name of a class. -/
def name : MessageKind → String
  | registrationRequest => "RegistrationRequest"
  | registrationResponse => "RegistrationResponse"
  | registrationUpload => "RegistrationUpload"
  | credentialRequest => "CredentialRequest"
  | credentialResponse => "CredentialResponse"
  | credentialFinalization => "CredentialFinalization"

/-- The names of the fields of a class in wire order. -/
def fieldNames : MessageKind → List String
  | registrationRequest => ["blinded_message"]
  | registrationResponse => ["evaluated_message", "server_public_key"]
  | registrationUpload => ["client_public_key", "masking_key", "envelope"]
  | credentialRequest => ["blinded_message", "client_nonce", "client_keyshare"]
  | credentialResponse =>
    ["evaluated_message", "masking_nonce", "masked_response", "server_nonce", "server_keyshare",
      "server_mac"]
  | credentialFinalization => ["client_mac"]

variable [Groups]

/-- The sizes of the fields of a class in wire order. -/
def sizes (s : Suite) : MessageKind → List Nat
  | registrationRequest => [s.elementLength]
  | registrationResponse => [s.elementLength, s.publicLength]
  | registrationUpload => [s.publicLength, s.hashLength, s.envelopeLength]
  | credentialRequest => [s.elementLength, s.nonceLength, s.publicLength]
  | credentialResponse =>
    [s.elementLength, s.nonceLength, s.maskedLength, s.nonceLength, s.publicLength, s.hashLength]
  | credentialFinalization => [s.hashLength]

/-- The length of every message of a class. -/
def length (k : MessageKind) (s : Suite) : Nat := (k.sizes s).sum

end MessageKind

/-- The part of a response that both sides hash: evaluation, masking nonce and masked credentials. -/
def CredentialResponse.credentialPart (m : CredentialResponse) : Bytes :=
  m.evaluatedMessage ++ m.maskingNonce ++ m.maskedResponse

namespace Message

/-- The class of a message. -/
def kind : Message → MessageKind
  | registrationRequest _ => .registrationRequest
  | registrationResponse _ => .registrationResponse
  | registrationUpload _ => .registrationUpload
  | credentialRequest _ => .credentialRequest
  | credentialResponse _ => .credentialResponse
  | credentialFinalization _ => .credentialFinalization

/-- The suite of a message. -/
def suite : Message → Suite
  | registrationRequest m => m.suite
  | registrationResponse m => m.suite
  | registrationUpload m => m.suite
  | credentialRequest m => m.suite
  | credentialResponse m => m.suite
  | credentialFinalization m => m.suite

/-- The fields of a message in wire order. -/
def fields : Message → List Field
  | registrationRequest m => [.bytes m.blindedMessage]
  | registrationResponse m => [.bytes m.evaluatedMessage, .bytes m.serverPublicKey]
  | registrationUpload m =>
    [.bytes m.clientPublicKey, .bytes m.maskingKey, .envelope m.envelope]
  | credentialRequest m =>
    [.bytes m.blindedMessage, .bytes m.clientNonce, .bytes m.clientKeyshare]
  | credentialResponse m =>
    [.bytes m.evaluatedMessage, .bytes m.maskingNonce, .bytes m.maskedResponse,
      .bytes m.serverNonce, .bytes m.serverKeyshare, .bytes m.serverMac]
  | credentialFinalization m => [.bytes m.clientMac]

/-- The message of a class with given fields, if their number and sorts are right. -/
def ofFields? (k : MessageKind) (s : Suite) (fs : List Field) : Option Message :=
  match k, fs with
  | .registrationRequest, [.bytes a] => some (registrationRequest ⟨s, a⟩)
  | .registrationResponse, [.bytes a, .bytes b] => some (registrationResponse ⟨s, a, b⟩)
  | .registrationUpload, [.bytes a, .bytes b, .envelope e] => some (registrationUpload ⟨s, a, b, e⟩)
  | .credentialRequest, [.bytes a, .bytes b, .bytes c] => some (credentialRequest ⟨s, a, b, c⟩)
  | .credentialResponse, [.bytes a, .bytes b, .bytes c, .bytes d, .bytes e, .bytes f] =>
    some (credentialResponse ⟨s, a, b, c, d, e, f⟩)
  | .credentialFinalization, [.bytes a] => some (credentialFinalization ⟨s, a⟩)
  | _, _ => none

/-- The fields of a message with their names. -/
def namedFields (m : Message) : List (String × Field) := m.kind.fieldNames.zip m.fields

theorem ofFields?_fields (m : Message) : ofFields? m.kind m.suite m.fields = some m := by
  cases m <;> rfl

variable [Groups]

/-- The bytes of a field. -/
def Field.toBytes (s : Suite) : Field → Bytes
  | .bytes bs => bs
  | .envelope e => e.toBytes s

/-- Refuses the first field that does not have its size. -/
def checkSizes (kind : String) : List String → List Nat → List Bytes → Except Error Unit
  | name :: names, size :: sizes, part :: parts =>
    if part.length ≠ size then .error (.wrongLength (kind ++ "." ++ name) size part.length)
    else checkSizes kind names sizes parts
  | _, _, _ => .ok ()

/-- The fields as byte strings in wire order. -/
def parts (m : Message) : List Bytes := m.fields.map (Field.toBytes m.suite)

/-- The message on the wire. -/
def toBytes (m : Message) : Except Error Bytes := do
  checkSizes m.kind.name m.kind.fieldNames (m.kind.sizes m.suite) m.parts
  return m.parts.flatten

/-- Decodes the elements and keys that a message carries. -/
def validate : Message → Except Error Unit
  | registrationRequest m => do
    let _ ← m.suite.group.decodeElement m.blindedMessage "blinded message"
  | registrationResponse m => do
    let _ ← m.suite.group.decodeElement m.evaluatedMessage "evaluated message"
    m.suite.exchange.validatePublicKey m.serverPublicKey "server public key"
  | registrationUpload m =>
    m.suite.exchange.validatePublicKey m.clientPublicKey "client public key"
  | credentialRequest m => do
    let _ ← m.suite.group.decodeElement m.blindedMessage "blinded message"
    m.suite.exchange.validatePublicKey m.clientKeyshare "client keyshare"
  | credentialResponse m => do
    let _ ← m.suite.group.decodeElement m.evaluatedMessage "evaluated message"
    m.suite.exchange.validatePublicKey m.serverKeyshare "server keyshare"
  | credentialFinalization _ => .ok ()

/-- Cuts a byte string into pieces of given sizes; the rest is dropped. -/
def cut : List Nat → Bytes → List Bytes
  | [], _ => []
  | size :: sizes, bs => bs.take size :: cut sizes (bs.drop size)

/-- The message that bytes of the right length spell, before its elements and keys are decoded. -/
def split (k : MessageKind) (s : Suite) (bs : Bytes) : Message :=
  let part (i : Nat) : Bytes := (cut (k.sizes s) bs).getD i []
  match k with
  | .registrationRequest => registrationRequest ⟨s, part 0⟩
  | .registrationResponse => registrationResponse ⟨s, part 0, part 1⟩
  | .registrationUpload => registrationUpload ⟨s, part 0, part 1, Envelope.split s (part 2)⟩
  | .credentialRequest => credentialRequest ⟨s, part 0, part 1, part 2⟩
  | .credentialResponse =>
    credentialResponse ⟨s, part 0, part 1, part 2, part 3, part 4, part 5⟩
  | .credentialFinalization => credentialFinalization ⟨s, part 0⟩

/-- The message of a class that bytes stand for. -/
def ofBytes (k : MessageKind) (s : Suite) (bs : Bytes) : Except Error Message := do
  if bs.length ≠ k.length s then throw (.wrongLength k.name (k.length s) bs.length)
  let m := split k s bs
  m.validate
  return m

end Message

/-- The record of an account, which is the client's upload. -/
structure Record where
  upload : RegistrationUpload
  deriving DecidableEq

namespace Record

/-- The suite of a record. -/
def suite (r : Record) : Suite := r.upload.suite

/-- A short form of a record. -/
def describe (r : Record) : String := s!"ServerRegistration(suite={r.suite.name})"

variable [Groups]

/-- The record in storage. -/
def toBytes (r : Record) : Except Error Bytes := (Message.registrationUpload r.upload).toBytes

/-- The record that stored bytes stand for. -/
def ofBytes (s : Suite) (bs : Bytes) : Except Error Record := do
  match ← Message.ofBytes .registrationUpload s bs with
  | .registrationUpload m => return ⟨m⟩
  | _ => throw .uploadRequired

end Record

end Apake
