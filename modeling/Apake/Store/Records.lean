import Apake.Json.Edit
import Apake.Json.Reader
import Apake.Protocol.Registration
import Apake.Text.Lines

/-!
# The record store

A store holds the server's secrets and the records of all accounts in the order in which they came.
It is kept in one JSON file, which names the suite and its stretching function and holds everything
else as base64 text.  A file is read member by member, and the first that does not fit is told.
-/

namespace Apake

/-- Base64 text as bytes; `name` is what a failure calls it. -/
def bytesOfBase64 (text : List Char) (name : String) : Except Error Bytes :=
  (Base64.decode text).mapError (.malformedBase64 name)

/-- Server secrets and records; `path` is where they are kept. -/
structure RecordStore where
  path : String
  setup : ServerSetup
  records : List (Units × Record) := []

namespace RecordStore

/-- The suite of the store. -/
def suite (store : RecordStore) : Suite := store.setup.suite

/-- The record of an identifier. -/
def get? (store : RecordStore) (identifier : Units) : Option Record :=
  store.records.lookup identifier

/-- The number of records. -/
def size (store : RecordStore) : Nat := store.records.length

/-- Bytes as a JSON text of base64. -/
def encoded (bs : Bytes) : Json := .text (Units.ofString (String.ofList (Base64.encode bs)))

/-- The member of a given name. -/
def member (j : Json) (key : String) : Except Error Json := Json.child (.ofString key) j

/-- The settings that stand beside the name of a stretching function; the name is none of them. -/
def readSettings : Json → Except Error (List (Units × Stretching.Setting))
  | .object ms =>
    if (ms.lookup (Units.ofString "name")).isSome then
      .error (.wrongKind "ksf_from_name() got multiple values for argument 'name'")
    else .ok ms
  | j =>
    .error (.wrongKind ("opaque_engine.core.ksf.ksf_from_name() argument after ** must be a " ++
      s!"mapping, not {j.kindName}"))

/-- The stretching function that a file names. -/
def readStretching (j : Json) : Except Error Stretching := do
  let name ← member j "name"
  Stretching.ofJson name (← readSettings (← member j "params"))

/-- The suite that a file names. -/
def readSuite (stretching : Stretching) (j : Json) : Except Error Suite := do
  j.checkKey
  match j with
  | .text us => Suite.ofName us stretching
  | j => throw (.missingKey j.shownKey)

/-- The bytes that a base64 member holds. -/
def readBytes (name : String) : Json → Except Error Bytes
  | .text us => bytesOfBase64 us.toText.toList name
  | j =>
    .error (.wrongKind
      s!"argument should be a bytes-like object or ASCII string, not '{j.kindName}'")

variable [Groups]

/-- The store as a JSON value, if everything in it can be written. -/
def toJson (store : RecordStore) : Except Error Json := do
  let f := store.suite.stretching
  let setup ← store.setup.toBytes
  let records ← store.records.mapM fun (identifier, record) ↦ do
    return (identifier, encoded (← record.toBytes))
  return .object [
    (Units.ofString "suite", .ofString store.suite.name),
    (Units.ofString "ksf", .object [
      (Units.ofString "name", .ofString f.name),
      (Units.ofString "params",
        .object (f.parameters.map fun (k, v) ↦ (Units.ofString k, v)))]),
    (Units.ofString "server_setup", encoded setup),
    (Units.ofString "records", .object records)]

/-- The content of the file. -/
def toFile (store : RecordStore) : Except Error Bytes := do
  return Bytes.ofString (String.ofList (Json.render (.lines 0) (← store.toJson)))

/-- The record that a member of the file holds. -/
def readRecord (s : Suite) (identifier : Units) (j : Json) : Except Error (Units × Record) := do
  return (identifier, ← Record.ofBytes s (← readBytes "ServerRegistration" j))

/-- The store that a JSON value stands for. -/
def ofJson (path : String) (j : Json) : Except Error RecordStore := do
  let stretching ← readStretching (← member j "ksf")
  let s ← readSuite stretching (← member j "suite")
  let setup ← ServerSetup.ofBytes s (← readBytes "ServerSetup" (← member j "server_setup"))
  match ← member j "records" with
  | .object ms => return ⟨path, setup, ← ms.mapM fun (identifier, v) ↦ readRecord s identifier v⟩
  | _ => throw .recordsNotObject

/-- The JSON value that the content of a file is. -/
def readJson (content : Bytes) : Except Error Json :=
  match String.fromUTF8? content.toByteArray with
  | some text => Json.read (Text.withLineFeeds text.toList)
  | none => .error .undecodableText

/-- The store in the file at a path, given the content of that file; what is wrong with the content
is told as the cause of the failure. -/
def ofFile (path : String) : Option Bytes → Except Error RecordStore
  | none => .error (.storeMissing path)
  | some content =>
    match readJson content >>= ofJson path with
    | .error e => .error (if e.isOfContent then .storeCorrupt path e else e)
    | r => r

/-- The content of a file with one place changed: set to a value, or erased where there is none.
The library has no such operation; it is how a file is tampered with from outside. -/
def editFile (value? : Option Json) (keys : List Json) : Option Bytes → Except Error Bytes
  | none => .error .noSuchFile
  | some content => do
    let j ← Json.edit value? keys (← readJson content)
    return Bytes.ofString (String.ofList (Json.render .line j))

/-- A store with fresh secrets and no records, and the content of its file. -/
def create (path : String) (s : Suite) : Draw (RecordStore × Bytes) := do
  let store : RecordStore := ⟨path, ← ServerSetup.generate s, []⟩
  return (store, ← store.toFile)

/-- Puts a record in the store, and tells the new content of the file; the store holds the record
even if it cannot be written. -/
def put (store : RecordStore) (identifier : Units) (record : Record) :
    Except Error Bytes × RecordStore :=
  let store := { store with records := Json.insert identifier record store.records }
  (store.toFile, store)

end RecordStore

end Apake
