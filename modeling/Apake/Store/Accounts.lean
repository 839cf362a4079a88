import Apake.Protocol.Login
import Apake.Store.Records

/-!
# Accounts of a store

Both sides of a run in one place, against the records of a store.  A registration makes a record, a
login answers for an unknown account with a stand-in.
-/

namespace Apake.RecordStore

/-- What both sides have after a login in one place. -/
structure Session where
  client : LoginResult
  serverKey : Bytes
  deriving DecidableEq

/-- An account's name as the protocol's identifier. -/
def identifier (account : Units) : Except Error Bytes :=
  match account.toBytes? with
  | some bs => .ok bs
  | none => .error .unencodableText

variable [Groups]

/-- Runs a registration and tells the record and the client's export key. -/
def register (store : RecordStore) (account : Units) (password : Bytes) : Draw (Record × Bytes) := do
  let (request, state) ← Registration.start store.suite password
  let response ← Registration.answer (.message (.registrationRequest request))
    (← identifier account) store.setup
  let result ← ExceptT.mk fun entropy ↦
    let (result, _, entropy) := Registration.finish (.registration state) password
      (.message (.registrationResponse response)) {} entropy
    (result, entropy)
  return (← Registration.store (.message (.registrationUpload result.upload)), result.exportKey)

/-- Runs a login and tells what both sides have. -/
def login (store : RecordStore) (account : Units) (password : Bytes) : Draw Session := do
  let (request, clientState) ← Login.start store.suite password
  let (response, serverState) ← Login.answer (.message (.credentialRequest request))
    ((store.get? account).map .record) (← identifier account) store.setup {}
  let client ← (Login.finish (.login clientState) (.message (.credentialResponse response)) {}).1
  let serverKey ←
    (Login.confirm (.pending serverState) (.message (.credentialFinalization client.message))).1
  return ⟨client, serverKey⟩

end Apake.RecordStore
