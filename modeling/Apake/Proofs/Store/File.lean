import Apake.Store.Records
import Apake.Proofs.Json.RoundTrip
import Apake.Proofs.Protocol.Delivery
import Apake.Proofs.Stretching.Setting
import Apake.Proofs.Wire.Base64
import Apake.Proofs.Wire.Format

/-!
# A store comes back from its file

What is written for a store is read back as it was: the name of the suite, the settings of its
stretching function, the secrets of the server and all records.  The store is sound if its secrets
were made under its suite, its settings are whole numbers that can be read, and its records stand
under different identifiers and come back one by one.
-/

namespace Apake

/-- A traversal has a result exactly if each of its steps has one. -/
theorem Except.mapM_eq_ok_iff {ε α β : Type} {f : α → Except ε β} {as : List α} {bs : List β} :
    as.mapM f = .ok bs ↔ List.Forall₂ (fun a b ↦ f a = .ok b) as bs := by
  induction as generalizing bs with
  | nil =>
    rw [List.forall₂_nil_left_iff]
    constructor
    · intro h
      cases h
      rfl
    · rintro rfl
      rfl
  | cons a as ih =>
    rw [List.mapM_cons, Except.bind_eq_ok_iff, List.forall₂_cons_left_iff]
    constructor
    · rintro ⟨b, hb, h⟩
      obtain ⟨rest, hrest, h⟩ := Except.bind_eq_ok_iff.mp h
      cases h
      exact ⟨b, rest, hb, ih.mp hrest, rfl⟩
    · rintro ⟨b, rest, hb, hrest, rfl⟩
      exact ⟨b, hb, Except.bind_of_ok (ih.mpr hrest) rfl⟩

/-- A traversal that fails does so at one of its items. -/
theorem Except.exists_of_mapM_error {ε α β : Type} {f : α → Except ε β} {as : List α} {err : ε}
    (h : as.mapM f = .error err) : ∃ a ∈ as, f a = .error err := by
  induction as with
  | nil => cases h
  | cons a as ih =>
    rw [List.mapM_cons, Except.bind_eq_error_iff] at h
    obtain h | ⟨b, -, h⟩ := h
    · exact ⟨a, List.mem_cons_self, h⟩
    · obtain h | ⟨_, -, h⟩ := Except.bind_eq_error_iff.mp h
      · obtain ⟨a', hmem, ha'⟩ := ih h
        exact ⟨a', List.mem_cons_of_mem a hmem, ha'⟩
      · cases h

/-- A setting that comes back from the number that it is written as. -/
def Stretching.Setting.IsWritten (v : Stretching.Setting) : Prop :=
  ∃ n : Int, v = .integer n ∧ (Nat.toDigits 10 n.natAbs).length ≤ digitLimit

/-- Such a setting is given. -/
theorem Stretching.Setting.IsWritten.ne_null {v : Stretching.Setting} (h : v.IsWritten) :
    v ≠ .null := by
  obtain ⟨n, rfl, -⟩ := h
  nofun

/-- A suite is found under its name. -/
theorem Suite.ofName_name (s : Suite) : ofName (Units.ofString s.name) s.stretching = .ok s := by
  have hfound : SuiteName.ofName? s.selection.name = some s.selection := by
    cases s.selection <;> rfl
  unfold ofName name
  rw [Units.toText_ofString, hfound]

/-- A setup comes back from its bytes. -/
theorem ServerSetup.ofBytes_of_toBytes [Groups] {s : Suite} {seed privateKey bs : Bytes}
    {setup : ServerSetup} (hmake : make s seed privateKey = .ok setup)
    (h : setup.toBytes = .ok bs) : ofBytes s bs = .ok setup := by
  obtain ⟨rfl, holds⟩ := holds_of_make hmake
  obtain ⟨hseed, -⟩ := make_eq_ok_iff.mp hmake
  have hprivate := ExchangeName.length_privateKey_of_publicKey holds.publicKey
  cases holds.toBytes_eq.symm.trans h
  have hlength : (seed ++ privateKey).length = length setup.suite := by
    rw [List.length_append, hseed, hprivate]
    rfl
  unfold ofBytes
  refine Except.refuseIf_eq_ok_iff.mpr ⟨not_not.mpr hlength, ?_⟩
  rw [← hseed, List.take_left, List.drop_left]
  exact hmake

namespace RecordStore

/-- Members under names that are texts. -/
def named (ms : List (String × Json)) : List (Units × Json) :=
  ms.map fun (k, v) ↦ (Units.ofString k, v)

/-- Members are found in objects only. -/
theorem member_eq_ok_iff {j v : Json} {key : String} :
    member j key = .ok v ↔ ∃ ms, j = .object ms ∧ ms.lookup (Units.ofString key) = some v := by
  cases j with
  | object ms =>
    simp only [Json.object.injEq, exists_eq_left']
    unfold member Json.child
    dsimp only [Json.ofString]
    cases ms.lookup (Units.ofString key) with
    | none => exact ⟨nofun, nofun⟩
    | some w => exact ⟨fun h ↦ by cases h; rfl, fun h ↦ by cases h; rfl⟩
  | _ => exact ⟨nofun, nofun⟩

/-- A member is found under its name. -/
theorem member_named {ms : List (String × Json)} {key : String} {v : Json}
    (h : ms.lookup key = some v) : member (.object (named ms)) key = .ok v := by
  have hlookup : (named ms).lookup (Units.ofString key) = ms.lookup key := by
    clear h
    induction ms with
    | nil => rfl
    | cons m ms ih =>
      have hkey : (Units.ofString key == Units.ofString m.1) = (key == m.1) := by
        rw [Bool.eq_iff_iff, beq_iff_eq, beq_iff_eq]
        exact Units.ofString_injective.eq_iff
      rw [List.lookup_cons, ← hkey, ← ih]
      rfl
  exact member_eq_ok_iff.mpr ⟨_, rfl, hlookup.trans h⟩

/-- Names that differ do so as units. -/
theorem nodup_named {ms : List (String × Json)} (h : (ms.map Prod.fst).Nodup) :
    ((named ms).map Prod.fst).Nodup := by
  have hnames : (named ms).map Prod.fst = (ms.map Prod.fst).map Units.ofString := by
    simp [named]
  rw [hnames]
  exact h.map Units.ofString_injective

/-- Bytes come back from their base64 text. -/
theorem readBytes_encoded (name : String) (bs : Bytes) : readBytes name (encoded bs) = .ok bs := by
  unfold readBytes encoded bytesOfBase64
  dsimp only
  rw [Units.toText_ofString, String.toList_ofList, Base64.decode_encode]
  rfl

/-- A stretching function as a file names it. -/
def writeStretching (f : Stretching) : Json :=
  .object (named [("name", .ofString f.name), ("params", .object (named f.parameters))])

/-- A stretching function comes back from its name and its settings, if none of these is null. -/
theorem readStretching_write {f : Stretching} (h : ∀ p ∈ f.parameters, p.2 ≠ .null) :
    readStretching (writeStretching f) = .ok f := by
  have hname : (named f.parameters).lookup (Units.ofString "name") = none := by
    cases f <;> rfl
  have hsettings : readSettings (.object (named f.parameters)) = .ok (named f.parameters) := by
    unfold readSettings
    dsimp only
    rw [hname]
    rfl
  refine Except.bind_of_ok (member_named rfl) <| Except.bind_of_ok (member_named rfl) <|
    Except.bind_of_ok hsettings ?_
  rw [Stretching.ofJson_ofString]
  exact Stretching.ofName_parameters f h

/-- A stretching function is written as a value that can be read back. -/
theorem readable_writeStretching {f : Stretching} (h : ∀ p ∈ f.parameters, p.2.IsWritten) :
    (writeStretching f).Readable 984 := by
  have hparameters : ∀ ps : List (String × Stretching.Setting), (∀ p ∈ ps, p.2.IsWritten) →
      Json.ReadableMembers 982 (named ps) := by
    intro ps hps
    induction ps with
    | nil => trivial
    | cons p ps ih =>
      obtain ⟨k, v⟩ := p
      obtain ⟨⟨n, hn, hdigits⟩, hrest⟩ := List.forall_mem_cons.mp hps
      obtain rfl : v = .integer n := hn
      exact ⟨hdigits, ih hrest⟩
  have hdistinct : (f.parameters.map Prod.fst).Nodup := by
    cases f with
    | identity => exact List.nodup_nil
    | scrypt q => exact show ["n", "r", "p"].Nodup by decide
    | argon2id q => exact show ["memory_cost", "time_cost", "lanes"].Nodup by decide
  have hnames : ["name", "params"].Nodup := by decide
  exact ⟨by decide, nodup_named hnames, trivial,
    ⟨by decide, nodup_named hdistinct, hparameters _ h⟩, trivial⟩

variable [Groups]

/-- A record that comes back from its bytes as a record of a suite. -/
def Returns (s : Suite) (r : Record) : Prop :=
  ∀ bs, r.toBytes = .ok bs → Record.ofBytes s bs = .ok r

/-- A store in which everything is as the program puts it there. -/
structure Sound (store : RecordStore) : Prop where
  made : ∃ seed privateKey, ServerSetup.make store.suite seed privateKey = .ok store.setup
  settings : ∀ p ∈ store.suite.stretching.parameters, p.2.IsWritten
  records : ∀ p ∈ store.records, Returns store.suite p.2
  distinct : (store.records.map Prod.fst).Nodup

/-- The members that records are written as. -/
def writeRecords (records : List (Units × Record)) : Except Error (List (Units × Json)) :=
  records.mapM fun (identifier, record) ↦ do return (identifier, encoded (← record.toBytes))

/-- The records that members stand for. -/
def readRecords (s : Suite) (ms : List (Units × Json)) : Except Error (List (Units × Record)) :=
  ms.mapM fun (identifier, v) ↦ readRecord s identifier v

/-- Records are written one by one under their identifiers. -/
theorem writeRecords_eq_ok_iff {records : List (Units × Record)} {ms : List (Units × Json)} :
    writeRecords records = .ok ms ↔
      List.Forall₂ (fun p m ↦ ∃ bs, p.2.toBytes = .ok bs ∧ (p.1, encoded bs) = m) records ms := by
  unfold writeRecords
  rw [Except.mapM_eq_ok_iff]
  simp only [Except.bind_eq_ok_iff, pure, Except.pure, Except.ok.injEq]

/-- Records can be written together exactly if each of them can be written. -/
theorem exists_writeRecords_iff {records : List (Units × Record)} :
    (∃ ms, writeRecords records = .ok ms) ↔ ∀ p ∈ records, ∃ bs, p.2.toBytes = .ok bs := by
  simp only [writeRecords_eq_ok_iff]
  induction records with
  | nil => exact iff_of_true ⟨[], .nil⟩ nofun
  | cons p records ih =>
    rw [List.forall_mem_cons, ← ih]
    simp only [List.forall₂_cons_left_iff]
    constructor
    · rintro ⟨_, _, ms, ⟨bs, hbs, -⟩, hms, -⟩
      exact ⟨⟨bs, hbs⟩, ms, hms⟩
    · rintro ⟨⟨bs, hbs⟩, ms, hms⟩
      exact ⟨_, _, ms, ⟨bs, hbs, rfl⟩, hms, rfl⟩

/-- The members of records stand under their identifiers and can be read. -/
theorem readable_writeRecords (room : Nat) {records : List (Units × Record)}
    {ms : List (Units × Json)} (h : writeRecords records = .ok ms) :
    ms.map Prod.fst = records.map Prod.fst ∧ Json.ReadableMembers room ms := by
  have hmembers := writeRecords_eq_ok_iff.mp h
  clear h
  induction hmembers with
  | nil => exact ⟨rfl, trivial⟩
  | cons hm _ ih =>
    obtain ⟨bs, -, rfl⟩ := hm
    obtain ⟨hnames, hreadable⟩ := ih
    exact ⟨by rw [List.map_cons, List.map_cons, hnames], trivial, hreadable⟩

/-- From the members that records are written as, other records are read exactly if each has the
identifier of its member and is what the bytes in it stand for. -/
theorem readRecords_write_iff {s : Suite} {records records' : List (Units × Record)}
    {ms : List (Units × Json)} (h : writeRecords records = .ok ms) :
    readRecords s ms = .ok records' ↔
      List.Forall₂ (fun p p' ↦ p.1 = p'.1 ∧
        ∀ bs, p.2.toBytes = .ok bs → Record.ofBytes s bs = .ok p'.2) records records' := by
  have hmembers := writeRecords_eq_ok_iff.mp h
  unfold readRecords
  rw [Except.mapM_eq_ok_iff]
  clear h
  induction hmembers generalizing records' with
  | nil => rw [List.forall₂_nil_left_iff, List.forall₂_nil_left_iff]
  | @cons p m _ _ hm _ ih =>
    obtain ⟨bs, hbs, rfl⟩ := hm
    have hread (p' : Units × Record) : readRecord s p.1 (encoded bs) = .ok p' ↔
        p.1 = p'.1 ∧ Record.ofBytes s bs = .ok p'.2 := by
      unfold readRecord
      rw [Except.bind_of_ok (readBytes_encoded _ bs) rfl, Except.bind_eq_ok_iff]
      constructor
      · rintro ⟨r, hr, h⟩
        cases h
        exact ⟨rfl, hr⟩
      · rintro ⟨hname, hr⟩
        exact ⟨p'.2, hr, by rw [hname]; rfl⟩
    simp only [List.forall₂_cons_left_iff, hread, hbs, Except.ok.injEq, forall_eq', ih]

/-- The value that a store is written as. -/
def layout (s : Suite) (setup : Bytes) (ms : List (Units × Json)) : Json :=
  .object (named [("suite", .ofString s.name), ("ksf", writeStretching s.stretching),
    ("server_setup", encoded setup), ("records", .object ms)])

/-- A store is written as its suite, its secrets and the members of its records. -/
theorem toJson_eq_ok_iff {store : RecordStore} {j : Json} :
    store.toJson = .ok j ↔ ∃ setup ms, store.setup.toBytes = .ok setup ∧
      writeRecords store.records = .ok ms ∧ j = layout store.suite setup ms := by
  unfold toJson
  rw [Except.bind_eq_ok_iff]
  simp only [Except.bind_eq_ok_iff, pure, Except.pure, Except.ok.injEq, eq_comm (b := j)]
  constructor
  · rintro ⟨setup, hsetup, ms, hms, rfl⟩
    exact ⟨setup, ms, hsetup, hms, rfl⟩
  · rintro ⟨setup, ms, hsetup, hms, rfl⟩
    exact ⟨setup, hsetup, ms, hms, rfl⟩

/-- With settings that are numbers and different identifiers a store is written as a value that can
be read back. -/
theorem readable_toJson {store : RecordStore}
    (hsettings : ∀ p ∈ store.suite.stretching.parameters, p.2.IsWritten)
    (hdistinct : (store.records.map Prod.fst).Nodup) {j : Json} (h : store.toJson = .ok j) :
    j.Readable Json.depthLimit := by
  obtain ⟨setup, ms, -, hms, rfl⟩ := toJson_eq_ok_iff.mp h
  obtain ⟨hnames, hreadable⟩ := readable_writeRecords 983 hms
  have hkeys : ["suite", "ksf", "server_setup", "records"].Nodup := by decide
  exact ⟨by decide, nodup_named hkeys, trivial, readable_writeStretching hsettings, trivial,
    ⟨by decide, hnames ▸ hdistinct, hreadable⟩, trivial⟩

/-- A store comes back from the value that it is written as. -/
theorem ofJson_of_toJson {store : RecordStore} {seed privateKey : Bytes}
    (hmake : ServerSetup.make store.suite seed privateKey = .ok store.setup)
    (hsettings : ∀ p ∈ store.suite.stretching.parameters, p.2 ≠ .null)
    (hrecords : ∀ p ∈ store.records, Returns store.suite p.2) {j : Json}
    (h : store.toJson = .ok j) : ofJson store.path j = .ok store := by
  obtain ⟨setup, ms, hsetup, hms, rfl⟩ := toJson_eq_ok_iff.mp h
  have hread : readRecords store.suite ms = .ok store.records :=
    (readRecords_write_iff hms).mpr (List.forall₂_same.mpr fun p hp ↦ ⟨rfl, hrecords p hp⟩)
  refine Except.bind_of_ok (member_named rfl) <|
    Except.bind_of_ok (readStretching_write hsettings) <|
    Except.bind_of_ok (member_named rfl) <|
    Except.bind_of_ok (Except.bind_of_ok rfl (Suite.ofName_name store.suite)) <|
    Except.bind_of_ok (member_named rfl) <|
    Except.bind_of_ok (readBytes_encoded _ _) <|
    Except.bind_of_ok (ServerSetup.ofBytes_of_toBytes hmake hsetup) <|
    Except.bind_of_ok (member_named rfl) ?_
  exact Except.bind_of_ok hread rfl

omit [Groups] in
/-- The content of a file is read as the value that was written to it. -/
theorem readJson_render {j : Json} (h : j.Readable Json.depthLimit) :
    readJson (Bytes.ofString (String.ofList (Json.render (.lines 0) j))) = .ok j := by
  have hfeeds : '\r' ∉ Json.render (.lines 0) j := by
    intro hmem
    exact absurd (Json.isPrinted_render _ j h _ hmem) (by decide)
  unfold readJson
  rw [Bytes.fromUTF8?_ofString]
  dsimp only
  rw [String.toList_ofList, Text.withLineFeeds_of_not_mem hfeeds, Json.read_render _ h]

/-- A store is in a file exactly if it is in the value that the content is read as. -/
theorem ofFile_eq_ok_iff {path : String} {store : RecordStore} {content : Bytes} :
    ofFile path (some content) = .ok store ↔
      ∃ j, readJson content = .ok j ∧ ofJson path j = .ok store := by
  rw [← Except.bind_eq_ok_iff]
  unfold ofFile
  dsimp only
  split
  · next h => simp [h]
  · rfl

/-- A sound store comes back from the content of its file. -/
theorem ofFile_of_toFile {store : RecordStore} (sound : store.Sound) {content : Bytes}
    (h : store.toFile = .ok content) : ofFile store.path (some content) = .ok store := by
  obtain ⟨j, hj, h⟩ := Except.bind_eq_ok_iff.mp h
  cases h
  obtain ⟨seed, privateKey, hmake⟩ := sound.made
  have hread := readJson_render (readable_toJson sound.settings sound.distinct hj)
  have hstore := ofJson_of_toJson hmake (fun p hp ↦ (sound.settings p hp).ne_null) sound.records hj
  exact ofFile_eq_ok_iff.mpr ⟨j, hread, hstore⟩

/-- A store can be written exactly if its secrets and each of its records can. -/
theorem exists_toFile_iff {store : RecordStore} :
    (∃ content, store.toFile = .ok content) ↔
      (∃ bs, store.setup.toBytes = .ok bs) ∧ ∀ p ∈ store.records, ∃ bs, p.2.toBytes = .ok bs := by
  rw [← exists_writeRecords_iff]
  constructor
  · rintro ⟨_, h⟩
    obtain ⟨_, hj, -⟩ := Except.bind_eq_ok_iff.mp h
    obtain ⟨setup, ms, hsetup, hms, -⟩ := toJson_eq_ok_iff.mp hj
    exact ⟨⟨setup, hsetup⟩, ms, hms⟩
  · rintro ⟨⟨setup, hsetup⟩, ms, hms⟩
    exact ⟨_, Except.bind_of_ok (toJson_eq_ok_iff.mpr ⟨setup, ms, hsetup, hms, rfl⟩) rfl⟩

/-- A store with live secrets can be written if each of its records can. -/
theorem exists_toFile {store : RecordStore} {seed privateKey : Bytes}
    (holds : store.setup.Holds seed privateKey)
    (hrecords : ∀ p ∈ store.records, ∃ bs, p.2.toBytes = .ok bs) :
    ∃ content, store.toFile = .ok content :=
  exists_toFile_iff.mpr ⟨⟨_, holds.toBytes_eq⟩, hrecords⟩

end RecordStore

end Apake
