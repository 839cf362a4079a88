import Apake.Proofs.Json.Members
import Apake.Proofs.Store.Accounts
import Apake.Proofs.Wire.Writing

/-!
# What a file gives back

Writing a store does not ask what reading its file will: the suite of every record, the sizes in its
envelope, its client key, and settings that are not null.  After any puts that return, the file
gives every identifier the record that was put last exactly if this holds of the records that were
put and of the settings; every other record was read before and is read again.
-/

namespace Apake

/-- What a record must be for reading to give it back under a suite. -/
structure Record.Storable [Groups] (s : Suite) (r : Record) : Prop where
  suite : r.suite = s
  fits : r.upload.envelope.Fits s
  clientKey : s.exchange.validatePublicKey r.upload.clientPublicKey "client public key" = .ok ()

/-- No parameter of a stretching function that was read is null. -/
theorem Stretching.settings_of_ofJson {name : Json} {settings : List (Units × Setting)}
    {f : Stretching} (h : ofJson name settings = .ok f) : ∀ p ∈ f.parameters, p.2 ≠ .null := by
  obtain ⟨us, hname⟩ : ∃ us, ofName us settings = .ok f := by
    obtain ⟨-, -, h⟩ := Except.bind_eq_ok_iff.mp h
    split at h
    · exact ⟨_, h⟩
    · exact ⟨_, h⟩
  refine forall_parameters_of_ofName (P := (· ≠ .null)) ?_ ?_ (fun _ _ hgiven ↦ hgiven) hname
  · simp [parameters]
  · simp [parameters]

/-- A written record comes back exactly if it can be stored. -/
theorem Record.returns_iff_storable [Groups] {s : Suite} {r : Record} {bs : Bytes}
    (h : r.toBytes = .ok bs) : RecordStore.Returns s r ↔ r.Storable s := by
  constructor
  · intro hreturns
    have hread := ofBytes_eq_ok_iff.mp (hreturns bs h)
    obtain ⟨-, rfl, -⟩ := Message.toBytes_of_ofBytes hread
    exact ⟨rfl, Message.carriesFitting_of_ofBytes hread, Message.validate_of_ofBytes hread⟩
  · rintro ⟨rfl, hfits, hkey⟩ bs' hbs'
    exact ofBytes_eq_ok_iff.mpr
      (Message.ofBytes_of_toBytes (m := .registrationUpload r.upload) hfits hkey hbs')

namespace RecordStore

/-! ### Stores that were read -/

section Read

variable [Groups] {path : String} {store : RecordStore} {s : Suite}

/-- A record that was read comes back. -/
theorem returns_of_ofBytes {r : Record} {bs : Bytes} (h : Record.ofBytes s bs = .ok r) :
    Returns s r := by
  intro bs' hbs'
  obtain ⟨-, -, hbs⟩ := Message.toBytes_of_ofBytes (Record.ofBytes_eq_ok_iff.mp h)
  obtain rfl : bs = bs' := Except.ok.inj (hbs.symm.trans hbs')
  exact h

/-- Records that were read stand under the names of their members and come back. -/
theorem returns_of_readRecords {ms : List (Units × Json)} {records : List (Units × Record)}
    (h : readRecords s ms = .ok records) :
    records.map Prod.fst = ms.map Prod.fst ∧ ∀ p ∈ records, Returns s p.2 := by
  have hmembers := Except.mapM_eq_ok_iff.mp h
  clear h
  induction hmembers with
  | nil => exact ⟨rfl, List.forall_mem_nil _⟩
  | cons hm _ ih =>
    obtain ⟨bs, -, hm⟩ := Except.bind_eq_ok_iff.mp hm
    obtain ⟨r, hr, hm⟩ := Except.bind_eq_ok_iff.mp hm
    cases hm
    obtain ⟨hnames, hreturns⟩ := ih
    exact ⟨by rw [List.map_cons, List.map_cons, hnames],
      List.forall_mem_cons.mpr ⟨returns_of_ofBytes hr, hreturns⟩⟩

omit [Groups] in
/-- A suite that was read has the stretching function that was read before it. -/
theorem stretching_of_readSuite {f : Stretching} {j : Json} (h : readSuite f j = .ok s) :
    s.stretching = f := by
  obtain ⟨-, -, h⟩ := Except.bind_eq_ok_iff.mp h
  split at h
  · unfold Suite.ofName at h
    split at h
    · exact congrArg Suite.stretching (Except.ok.inj h).symm
    · cases h
  · cases h

/-- What a store was read from. -/
theorem members_of_ofJson {j : Json} (h : ofJson path j = .ok store) :
    store.path = path ∧ (∀ p ∈ store.suite.stretching.parameters, p.2 ≠ .null) ∧
      (∃ bs, ServerSetup.ofBytes store.suite bs = .ok store.setup) ∧
      ∃ ms, member j "records" = .ok (.object ms) ∧
        readRecords store.suite ms = .ok store.records := by
  obtain ⟨_, -, h⟩ := Except.bind_eq_ok_iff.mp h
  obtain ⟨f, hf, h⟩ := Except.bind_eq_ok_iff.mp h
  obtain ⟨_, -, h⟩ := Except.bind_eq_ok_iff.mp h
  obtain ⟨s, hs, h⟩ := Except.bind_eq_ok_iff.mp h
  obtain ⟨_, -, h⟩ := Except.bind_eq_ok_iff.mp h
  obtain ⟨bs, -, h⟩ := Except.bind_eq_ok_iff.mp h
  obtain ⟨setup, hsetup, h⟩ := Except.bind_eq_ok_iff.mp h
  obtain ⟨_, hms, h⟩ := Except.bind_eq_ok_iff.mp h
  split at h
  · obtain ⟨records, hrecords, h⟩ := Except.bind_eq_ok_iff.mp h
    cases h
    obtain ⟨rfl, -⟩ := ServerSetup.toBytes_of_ofBytes hsetup
    refine ⟨rfl, ?_, ⟨bs, hsetup⟩, _, hms, hrecords⟩
    obtain ⟨_, -, hf⟩ := Except.bind_eq_ok_iff.mp hf
    obtain ⟨_, -, hf⟩ := Except.bind_eq_ok_iff.mp hf
    obtain ⟨_, -, hf⟩ := Except.bind_eq_ok_iff.mp hf
    exact stretching_of_readSuite hs ▸ Stretching.settings_of_ofJson hf
  · cases h

/-- A store that was read has different identifiers. -/
theorem distinct_of_ofFile {content : Bytes} (h : ofFile path (some content) = .ok store) :
    (store.records.map Prod.fst).Nodup := by
  obtain ⟨j, hj, h⟩ := ofFile_eq_ok_iff.mp h
  obtain ⟨-, -, -, ms, hms, hrecords⟩ := members_of_ofJson h
  rw [(returns_of_readRecords hrecords).1]
  obtain ⟨members, rfl, hlookup⟩ := member_eq_ok_iff.mp hms
  have hdistinct : (Json.object members).Distinct := by
    unfold readJson at hj
    split at hj
    · exact Json.distinct_of_read hj
    · cases hj
  exact (Json.distinctMembers_iff.mp hdistinct.2 _ (Json.mem_of_lookup hlookup)).1

end Read

/-! ### What a file gives back -/

section Written

variable [Groups] {store : RecordStore} {content : Bytes}

/-- Whether the value that a store is written as is read from its text as it was. -/
def TextReturns (store : RecordStore) : Prop :=
  ∀ j, store.toJson = .ok j →
    readJson (Bytes.ofString (String.ofList (Json.render (.lines 0) j))) = .ok j

/-- With settings that are numbers and different identifiers the text of a store returns. -/
theorem textReturns_of_isWritten
    (hsettings : ∀ p ∈ store.suite.stretching.parameters, p.2.IsWritten)
    (hdistinct : (store.records.map Prod.fst).Nodup) : store.TextReturns :=
  fun _ hj ↦ readJson_render (readable_toJson hsettings hdistinct hj)

/-- Whether the content of a file gives a store of the suite of another and with its secrets, in
which given records are found. -/
def Reloads (store : RecordStore) (content : Bytes) (found : Units → Option Record) : Prop :=
  ∃ loaded, ofFile store.path (some content) = .ok loaded ∧ loaded.suite = store.suite ∧
    loaded.setup.toBytes = store.setup.toBytes ∧
    ∀ identifier, loaded.get? identifier = found identifier

/-- The content of a file gives the store that was written exactly if no setting is null and every
record comes back. -/
theorem reloads_iff {seed privateKey : Bytes}
    (hmake : ServerSetup.make store.suite seed privateKey = .ok store.setup)
    (hdistinct : (store.records.map Prod.fst).Nodup) (htext : store.TextReturns)
    (h : store.toFile = .ok content) :
    store.Reloads content store.get? ↔
      (∀ p ∈ store.suite.stretching.parameters, p.2 ≠ .null) ∧
        ∀ p ∈ store.records, Returns store.suite p.2 := by
  obtain ⟨j, hj, h⟩ := Except.bind_eq_ok_iff.mp h
  cases h
  constructor
  · rintro ⟨loaded, hloaded, hsuite, -, hfound⟩
    obtain ⟨_, hread, hloaded⟩ := ofFile_eq_ok_iff.mp hloaded
    cases (htext j hj).symm.trans hread
    obtain ⟨-, hsettings, -, ms, hms, hrecords⟩ := members_of_ofJson hloaded
    rw [hsuite] at hsettings hrecords
    refine ⟨hsettings, fun p hp ↦ ?_⟩
    obtain ⟨_, written, -, hwritten, rfl⟩ := toJson_eq_ok_iff.mp hj
    cases (member_named rfl).symm.trans hms
    obtain ⟨r, hr, hreturns⟩ := Json.lookup_of_forall₂
      (R := fun r r' ↦ ∀ bs, r.toBytes = .ok bs → Record.ofBytes store.suite bs = .ok r')
      ((readRecords_write_iff hwritten).mp hrecords) (Json.lookup_of_mem hdistinct hp)
    have hsame : some r = some p.2 := by
      rw [← hr, ← Json.lookup_of_mem hdistinct hp]
      exact hfound p.1
    obtain rfl : r = p.2 := Option.some.inj hsame
    exact hreturns
  · rintro ⟨hsettings, hrecords⟩
    exact ⟨store, ofFile_eq_ok_iff.mpr ⟨j, htext j hj, ofJson_of_toJson hmake hsettings hrecords hj⟩,
      rfl, rfl, fun _ ↦ rfl⟩

/-! ### Stores that are in a file -/

/-- A store with the content of its file, as it was created or read. -/
inductive Obtained : RecordStore → Bytes → Prop
  | created {path : String} {s : Suite} {e : Entropy} {store : RecordStore} {content : Bytes}
      (h : ((create path s).runOn e).1 = .ok (store, content)) : Obtained store content
  | loaded {path : String} {store : RecordStore} {content : Bytes}
      (h : ofFile path (some content) = .ok store) : Obtained store content

namespace Obtained

/-- The secrets of the store were made under its suite. -/
theorem made (obtained : Obtained store content) :
    ∃ seed privateKey, ServerSetup.make store.suite seed privateKey = .ok store.setup := by
  cases obtained with
  | created h => exact (made_of_create h).1
  | loaded h =>
    obtain ⟨_, -, h⟩ := ofFile_eq_ok_iff.mp h
    obtain ⟨-, -, ⟨_, hsetup⟩, -⟩ := members_of_ofJson h
    unfold ServerSetup.ofBytes at hsetup
    exact ⟨_, _, (Except.refuseIf_eq_ok_iff.mp hsetup).2⟩

/-- Its records stand under different identifiers. -/
theorem distinct (obtained : Obtained store content) : (store.records.map Prod.fst).Nodup := by
  cases obtained with
  | created h =>
    obtain ⟨-, -, -, hrecords, -⟩ := made_of_create h
    rw [hrecords]
    exact List.nodup_nil
  | loaded h => exact distinct_of_ofFile h

/-- Its records come back. -/
theorem returns (obtained : Obtained store content) :
    ∀ p ∈ store.records, Returns store.suite p.2 := by
  cases obtained with
  | created h =>
    obtain ⟨-, -, -, hrecords, -⟩ := made_of_create h
    rw [hrecords]
    exact List.forall_mem_nil _
  | loaded h =>
    obtain ⟨_, -, h⟩ := ofFile_eq_ok_iff.mp h
    obtain ⟨-, -, -, _, -, hrecords⟩ := members_of_ofJson h
    exact (returns_of_readRecords hrecords).2

/-- Its file was written from it, or it was read from its file and has no setting that is null. -/
theorem file (obtained : Obtained store content) :
    store.toFile = .ok content ∨ ofFile store.path (some content) = .ok store ∧
      ∀ p ∈ store.suite.stretching.parameters, p.2 ≠ .null := by
  cases obtained with
  | created h =>
    obtain ⟨-, -, -, -, hfile⟩ := made_of_create h
    exact .inl hfile
  | loaded h =>
    obtain ⟨_, -, hjson⟩ := ofFile_eq_ok_iff.mp h
    obtain ⟨rfl, hsettings, -⟩ := members_of_ofJson hjson
    exact .inr ⟨h, hsettings⟩

end Obtained

/-- Puts records one after the other, as long as every put returns; the content of the file is what
the last one wrote. -/
def putAll : RecordStore → Bytes → List (Units × Record) → Except Error (RecordStore × Bytes)
  | store, content, [] => .ok (store, content)
  | store, _, (identifier, record) :: puts => do
    let content ← (store.put identifier record).1
    (store.put identifier record).2.putAll content puts

/-- After puts a store has the records that were put among its own, and its file holds all of them
unless nothing was put. -/
theorem putAll_eq {puts : List (Units × Record)} {after : RecordStore} {file : Bytes}
    (h : store.putAll content puts = .ok (after, file)) :
    after = { store with records := Json.insertAll store.records puts } ∧
      (after.toFile = .ok file ∨ puts = [] ∧ file = content) := by
  induction puts generalizing store content with
  | nil =>
    cases h
    exact ⟨rfl, .inr ⟨rfl, rfl⟩⟩
  | cons p puts ih =>
    obtain ⟨written, hwritten, h⟩ := Except.bind_eq_ok_iff.mp h
    obtain ⟨rfl, hfile⟩ := ih h
    refine ⟨rfl, .inl ?_⟩
    rcases hfile with hfile | ⟨rfl, rfl⟩
    · exact hfile
    · exact hwritten

/-- The record of an identifier after puts: the last that was put under it, or the one from before.
-/
def recordAfter (store : RecordStore) (puts : List (Units × Record)) (identifier : Units) :
    Option Record :=
  (puts.reverse.lookup identifier).or (store.get? identifier)

/-- After puts that returned the records of a store come back exactly if those that were put can be
stored. -/
theorem returns_insertAll_iff {puts : List (Units × Record)}
    (hdistinct : (store.records.map Prod.fst).Nodup)
    (hreturns : ∀ p ∈ store.records, Returns store.suite p.2)
    (hwritten : ∀ p ∈ Json.insertAll store.records puts, ∃ bs, p.2.toBytes = .ok bs) :
    (∀ p ∈ Json.insertAll store.records puts, Returns store.suite p.2) ↔
      ∀ identifier record, puts.reverse.lookup identifier = some record →
        record.Storable store.suite := by
  constructor
  · intro hall identifier record hput
    have hmem : (identifier, record) ∈ Json.insertAll store.records puts := by
      apply Json.mem_of_lookup
      rw [Json.lookup_insertAll, hput, Option.some_or]
    obtain ⟨bs, hbs⟩ := hwritten _ hmem
    exact (Record.returns_iff_storable hbs).mp (hall _ hmem)
  · intro hput p hp
    have hfound := Json.lookup_of_mem (Json.nodup_insertAll hdistinct puts) hp
    rw [Json.lookup_insertAll] at hfound
    cases hlast : puts.reverse.lookup p.1 with
    | some record =>
      rw [hlast, Option.some_or] at hfound
      obtain rfl : record = p.2 := Option.some.inj hfound
      obtain ⟨bs, hbs⟩ := hwritten p hp
      exact (Record.returns_iff_storable hbs).mpr (hput p.1 p.2 hlast)
    | none =>
      rw [hlast, Option.none_or] at hfound
      exact hreturns _ (Json.mem_of_lookup hfound)

/-- What is written after puts gives the records from after them exactly if no setting is null and
all records come back. -/
theorem reloads_recordAfter_iff {puts : List (Units × Record)} {file : Bytes}
    (obtained : Obtained store content)
    (htext : TextReturns { store with records := Json.insertAll store.records puts })
    (h : toFile { store with records := Json.insertAll store.records puts } = .ok file) :
    store.Reloads file (store.recordAfter puts) ↔
      (∀ p ∈ store.suite.stretching.parameters, p.2 ≠ .null) ∧
        ∀ p ∈ Json.insertAll store.records puts, Returns store.suite p.2 := by
  let after : RecordStore := { store with records := Json.insertAll store.records puts }
  obtain ⟨seed, privateKey, hmake⟩ := obtained.made
  have hmade : ServerSetup.make after.suite seed privateKey = .ok after.setup := hmake
  have hdistinct : (after.records.map Prod.fst).Nodup :=
    Json.nodup_insertAll obtained.distinct puts
  have hfound : store.recordAfter puts = after.get? :=
    funext fun identifier ↦ (Json.lookup_insertAll store.records puts identifier).symm
  have hreloads := reloads_iff hmade hdistinct htext h
  rw [hfound]
  exact hreloads

/-- After any puts that return, the file of a store that was created or read gives its suite, its
secrets and under every identifier the record that was put last, or the one from before, exactly if
no setting is null and each of the records that were put last can be stored. -/
theorem reloads_after_puts_iff {puts : List (Units × Record)} {after : RecordStore} {file : Bytes}
    (obtained : Obtained store content) (h : store.putAll content puts = .ok (after, file))
    (htext : after.TextReturns) :
    store.Reloads file (store.recordAfter puts) ↔
      (∀ p ∈ store.suite.stretching.parameters, p.2 ≠ .null) ∧
        ∀ identifier record, puts.reverse.lookup identifier = some record →
          record.Storable store.suite := by
  obtain ⟨rfl, hfile⟩ := putAll_eq h
  -- Only the file of a store that was read and not changed since was not written by the store.
  have hsource : toFile { store with records := Json.insertAll store.records puts } = .ok file ∨
      puts = [] ∧ ofFile store.path (some file) = .ok store ∧
        ∀ p ∈ store.suite.stretching.parameters, p.2 ≠ .null := by
    rcases hfile with hfile | ⟨rfl, rfl⟩
    · exact .inl hfile
    · exact obtained.file.imp_right fun hread ↦ ⟨rfl, hread⟩
  rcases hsource with hfile | ⟨rfl, hread, hsettings⟩
  · rw [reloads_recordAfter_iff obtained htext hfile,
      returns_insertAll_iff obtained.distinct obtained.returns
        (exists_toFile_iff.mp ⟨file, hfile⟩).2]
  · exact iff_of_true ⟨store, hread, rfl, rfl, fun _ ↦ rfl⟩ ⟨hsettings, nofun⟩

/-- A record of zeros. -/
def zeroRecord (s : Suite) : Record :=
  let envelope : Envelope :=
    ⟨Bytes.zeros s.nonceLength, Bytes.zeros s.privateLength, Bytes.zeros s.hashLength⟩
  ⟨⟨s, Bytes.zeros s.publicLength, Bytes.zeros s.hashLength, envelope⟩⟩

/-- A record of zeros is put into a store without stretching. -/
theorem exists_put_zeroRecord (obtained : Obtained store content)
    (hcontent : store.toFile = .ok content) (hstretching : store.suite.stretching = .identity) :
    ∃ after file, store.putAll content [(Units.ofString "alice", zeroRecord store.suite)] =
      .ok (after, file) ∧ after.TextReturns := by
  let record := zeroRecord store.suite
  let after := (store.put (Units.ofString "alice") record).2
  have hrecord : ∃ bs, record.toBytes = .ok bs := by
    refine ⟨_, Message.toBytes_eq_ok_iff.mpr ⟨?_, rfl⟩⟩
    show [(Bytes.zeros _).length, (Bytes.zeros _).length, (Envelope.toBytes _ _).length] = _
    rw [Bytes.length_zeros, Bytes.length_zeros, Envelope.length_toBytes]
    rfl
  obtain ⟨hsetup, hrecords⟩ := exists_toFile_iff.mp ⟨content, hcontent⟩
  have hall : ∀ p ∈ after.records, ∃ bs, p.2.toBytes = .ok bs := by
    intro p hp
    rcases Json.mem_of_mem_insert hp with rfl | hold
    · exact hrecord
    · exact hrecords p hold
  obtain ⟨file, hfile⟩ : ∃ file, after.toFile = .ok file := exists_toFile_iff.mpr ⟨hsetup, hall⟩
  have hsettings : ∀ p ∈ after.suite.stretching.parameters, p.2.IsWritten := by
    rw [show after.suite.stretching = .identity from hstretching]
    exact List.forall_mem_nil _
  exact ⟨after, file, Except.bind_of_ok hfile rfl,
    textReturns_of_isWritten hsettings (Json.nodup_insert obtained.distinct)⟩

end Written

section Standard

attribute [local instance] Groups.standard

/-- A source of zeros. -/
def zeros : Source := fun _ n ↦ .bytes (Bytes.zeros n)

/-- The standard groups have orders. -/
theorem order_pos (n : PrimeGroupName) : 0 < (Groups.prime n).order := by
  cases n <;> decide

/-- In the default suite a store is created on the source. -/
theorem exists_created_zeros : ∃ store content,
    ((create "db" .default).runOn ⟨zeros, []⟩).1 = .ok (store, content) := by
  have hpublic : Suite.default.exchange.publicKey (Bytes.zeros 32) = .ok _ :=
    ExchangeName.publicKey_x25519_eq_ok_iff.mpr ⟨rfl, rfl⟩
  have hderive : Suite.default.exchange.derivePrivateKey Suite.default.hash
      (Suite.default.hash.expand (Bytes.zeros 32) ServerSetup.standInKeyLabel
        Suite.default.seedLength) = .ok _ := rfl
  obtain ⟨_, hstandIn⟩ := ExchangeName.isPrivateKey_of_derive order_pos hderive
  have hmake := ServerSetup.exists_make (s := .default) rfl hpublic hderive hstandIn
  obtain ⟨-, holds⟩ := ServerSetup.holds_of_make hmake
  obtain ⟨content, hcontent⟩ := exists_toFile_iff.mpr
    ⟨⟨_, holds.toBytes_eq⟩, fun p (hp : p ∈ (⟨"db", _, []⟩ : RecordStore).records) ↦ nomatch hp⟩
  have hseed : ((Draw.bytes 32).runOn ⟨zeros, []⟩).1 = .ok (Bytes.zeros 32) := rfl
  have hprivate : (Suite.default.exchange.randomPrivateKey.runOn
      ((Draw.bytes 32).runOn ⟨zeros, []⟩).2).1 = .ok (Bytes.zeros 32) := rfl
  refine ⟨_, content, create_of_generate ?_ hcontent⟩
  unfold ServerSetup.generate
  rw [Draw.fst_runOn_bind]
  refine Except.bind_of_ok hseed ?_
  rw [Draw.fst_runOn_bind]
  exact Except.bind_of_ok hprivate hmake

/-- On the Montgomery curve zeros are a public key, and a record of zeros is in the file. -/
theorem reloads_after_put_zeros : ∃ store content after file,
    let puts := [(Units.ofString "alice", zeroRecord .default)]
    Obtained store content ∧ store.putAll content puts = .ok (after, file) ∧
      after.TextReturns ∧ store.Reloads file (store.recordAfter puts) := by
  obtain ⟨store, content, hcreate⟩ := exists_created_zeros
  have obtained : Obtained store content := .created hcreate
  obtain ⟨-, -, hsuite, -, hcontent⟩ := made_of_create hcreate
  obtain ⟨after, file, hputs, htext⟩ :=
    exists_put_zeroRecord obtained hcontent (congrArg Suite.stretching hsuite)
  rw [hsuite] at hputs
  refine ⟨store, content, after, file, obtained, hputs, htext,
    (reloads_after_puts_iff obtained hputs htext).mpr ⟨?_, fun identifier r hr ↦ ?_⟩⟩
  · rw [hsuite]
    exact List.forall_mem_nil _
  · cases List.mem_singleton.mp (Json.mem_of_lookup hr)
    rw [hsuite]
    exact ⟨rfl, ⟨rfl, rfl, rfl⟩, rfl⟩

/-- The suite over residues without stretching. -/
def residueSuite : Suite := ⟨.i2048Sha256, .identity⟩

private theorem any_residueStandIn : (residueSuite.exchange.derivePrivateKey residueSuite.hash
    (residueSuite.hash.expand (Bytes.zeros 32) ServerSetup.standInKeyLabel
      residueSuite.seedLength)).toOption.any (fun _ ↦ true) = true := by
  decide +kernel

/-- In the suite over residues a store without records is in its file. -/
theorem exists_residueStore : ∃ store content,
    Obtained store content ∧ store.suite = residueSuite ∧ store.toFile = .ok content := by
  obtain ⟨_, hderive, -⟩ := Except.exists_of_any any_residueStandIn
  obtain ⟨_, hstandIn⟩ := ExchangeName.isPrivateKey_of_derive order_pos hderive
  have hone : (Groups.prime .i2048).IsScalar 1 := ⟨by decide, by decide⟩
  have hpublic : residueSuite.exchange.publicKey (Bytes.ofNat 28 1) = .ok _ :=
    ExchangeName.publicKey_prime_eq_ok_iff.mpr ⟨1, PrimeGroup.decodeScalar_ofNat hone _, rfl⟩
  obtain ⟨setup, hmake⟩ : ∃ setup,
      ServerSetup.make residueSuite (Bytes.zeros 32) (Bytes.ofNat 28 1) = .ok setup :=
    ⟨_, ServerSetup.exists_make (Bytes.length_zeros 32) hpublic hderive hstandIn⟩
  obtain ⟨hsuite, holds⟩ := ServerSetup.holds_of_make hmake
  let store : RecordStore := ⟨"db", setup, []⟩
  have hsuite : store.suite = residueSuite := hsuite
  have sound : store.Sound :=
    ⟨⟨_, _, hsuite ▸ hmake⟩, hsuite ▸ List.forall_mem_nil _, List.forall_mem_nil _, List.nodup_nil⟩
  obtain ⟨content, hcontent⟩ : ∃ content, store.toFile = .ok content :=
    exists_toFile holds (List.forall_mem_nil _)
  exact ⟨store, content, .loaded (ofFile_of_toFile sound hcontent), hsuite, hcontent⟩

/-- Zeros are no element of the residues: a record of zeros is put into a store, but the file does
not give it. -/
theorem not_reloads_after_put_zeros : ∃ store content after file,
    let puts := [(Units.ofString "alice", zeroRecord residueSuite)]
    Obtained store content ∧ store.putAll content puts = .ok (after, file) ∧
      after.TextReturns ∧ ¬ store.Reloads file (store.recordAfter puts) := by
  obtain ⟨store, content, obtained, hsuite, hcontent⟩ := exists_residueStore
  obtain ⟨after, file, hputs, htext⟩ :=
    exists_put_zeroRecord obtained hcontent (congrArg Suite.stretching hsuite)
  rw [hsuite] at hputs
  refine ⟨store, content, after, file, obtained, hputs, htext, fun hreloads ↦ ?_⟩
  obtain ⟨rfl, hfile⟩ := putAll_eq hputs
  have hfile := hfile.resolve_right fun hempty ↦ by cases hempty.1
  obtain ⟨-, hreturns⟩ := (reloads_recordAfter_iff obtained htext hfile).mp hreloads
  have hmem : (Units.ofString "alice", zeroRecord residueSuite) ∈
      Json.insertAll store.records [(Units.ofString "alice", zeroRecord residueSuite)] := by
    apply Json.mem_of_lookup
    rw [Json.lookup_insertAll]
    rfl
  obtain ⟨bs, hbs⟩ := (exists_toFile_iff.mp ⟨file, hfile⟩).2 _ hmem
  have hstorable := (Record.returns_iff_storable hbs).mp (hreturns _ hmem)
  rw [hsuite] at hstorable
  have hinvalid : residueSuite.exchange.validatePublicKey
      (zeroRecord residueSuite).upload.clientPublicKey "client public key" ≠ .ok () := by
    decide +kernel
  exact hinvalid hstorable.clientKey

end Standard

end RecordStore

end Apake
