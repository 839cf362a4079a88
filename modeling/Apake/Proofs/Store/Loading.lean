import Apake.Proofs.Group.Sizes
import Apake.Proofs.Store.File

/-!
# How loading fails

Most of what can be wrong with the content of a file is told as the cause for which it holds no
store.  The members are read one after the other, and each reader fails in its own ways; four of
these are none that the store puts down to the content, and leave it as they are.
-/

namespace Apake

namespace Error

variable {err : Error}

/-- Bytes that stand for nothing are a fault of the content. -/
theorem isOfContent_of_decoding (h : err.family = .decoding) : err.isOfContent = true := by
  rw [isOfContent, h]

/-- Refused settings are no fault of the content. -/
theorem isOfContent_of_stretching (h : err.family = .stretching) : err.isOfContent = false := by
  rw [isOfContent, h]

end Error

/-! ### The members of a file -/

/-- A text that cannot be read is a fault of the content, unless its values are nested too deep. -/
theorem Json.Halt.error_cases (cs : List Char) (h : Halt) :
    (h.error cs).isOfContent = true ∨ h.error cs = .nestedTooDeep := by
  cases h with
  | fault kind index => exact .inl rfl
  | longNumber digits => exact .inl rfl
  | nestedTooDeep => exact .inr rfl

/-- What cannot be looked up as a key is a fault of the content. -/
theorem Json.isOfContent_of_checkKey {j : Json} {err : Error} (h : j.checkKey = .error err) :
    err.isOfContent = true := by
  cases j with
  | array vs | object ms =>
    cases h
    rfl
  | _ => cases h

/-! ### Settings that are refused -/

namespace Json

mutual

/-- Values that cannot be ordered are of the wrong kind. -/
theorem wrongKind_of_less {err : Error} :
    (v w : Json) → less v w = .error err → ∃ reason, err = .wrongKind reason
  | .text us, w, h => by
    cases w with
    | text vs => cases h
    | _ =>
      cases h
      exact ⟨_, rfl⟩
  | .array vs, w, h => by
    cases w with
    | array ws => exact wrongKind_of_lessItems vs ws h
    | _ =>
      cases h
      exact ⟨_, rfl⟩
  | .null, w, h | .bool _, w, h | .integer _, w, h | .decimal _, w, h | .object _, w, h => by
    unfold less at h
    split at h
    · cases h
    · cases h
      exact ⟨_, rfl⟩

/-- Lists that cannot be ordered hold items of the wrong kind. -/
theorem wrongKind_of_lessItems {err : Error} :
    (vs ws : List Json) → lessItems vs ws = .error err → ∃ reason, err = .wrongKind reason
  | [], [], h | _ :: _, [], h | [], _ :: _, h => by cases h
  | v :: vs, w :: ws, h => by
    rw [lessItems] at h
    split at h
    · exact wrongKind_of_lessItems vs ws h
    · exact wrongKind_of_less v w h

end

/-- What cannot be multiplied is of the wrong kind. -/
theorem wrongKind_of_times {n : Nat} {v : Json} {err : Error} (h : times n v = .error err) :
    ∃ reason, err = .wrongKind reason := by
  cases v with
  | null | object ms =>
    cases h
    exact ⟨_, rfl⟩
  | _ => cases h

end Json

/-- A failure that is put down to the settings of a function: one that says so, or a wrong kind. -/
def Error.IsOfSettings (err : Error) : Prop :=
  err.family = .stretching ∨ ∃ reason, err = .wrongKind reason

/-- Settings of scrypt are refused for a cost that is out of range or of the wrong kind. -/
theorem Scrypt.Parameters.isOfSettings_of_make {n r p : Stretching.Setting} {err : Error}
    (h : make n r p = .error err) : err.IsOfSettings := by
  obtain h | ⟨isLess, -, h⟩ := Except.bind_eq_error_iff.mp h
  · exact .inr (Json.wrongKind_of_less _ _ h)
  obtain ⟨-, rfl⟩ | ⟨-, h⟩ := Except.refuseIf_eq_error_iff.mp h
  · exact .inl rfl
  cases n with
  | integer value =>
    dsimp only at h
    split at h
    · cases h
    · cases h
      exact .inl rfl
  | _ =>
    cases h
    exact .inr ⟨_, rfl⟩

/-- Settings of Argon2id are refused for a value that is out of range or of the wrong kind. -/
theorem Argon2.isOfSettings_of_check {memory passes lanes : Stretching.Setting} {err : Error}
    (h : check memory passes lanes = .error err) : err.IsOfSettings := by
  obtain h | ⟨bound, -, h⟩ := Except.bind_eq_error_iff.mp h
  · exact .inr (Json.wrongKind_of_times h)
  obtain h | ⟨_, -, h⟩ := Except.bind_eq_error_iff.mp h
  · exact .inr (Json.wrongKind_of_less _ _ h)
  obtain ⟨-, rfl⟩ | ⟨-, h⟩ := Except.refuseIf_eq_error_iff.mp h
  · exact .inl rfl
  obtain h | ⟨_, -, h⟩ := Except.bind_eq_error_iff.mp h
  · exact .inr (Json.wrongKind_of_less _ _ h)
  obtain ⟨-, rfl⟩ | ⟨-, h⟩ := Except.refuseIf_eq_error_iff.mp h
  · exact .inl rfl
  obtain h | ⟨_, -, h⟩ := Except.bind_eq_error_iff.mp h
  · exact .inr (Json.wrongKind_of_less _ _ h)
  split at h
  · cases h
    exact .inl rfl
  · cases h

/-- Parameters of Argon2id are refused as their settings are. -/
theorem Argon2.Parameters.isOfSettings_of_make {memory passes lanes : Stretching.Setting}
    {err : Error} (h : make memory passes lanes = .error err) : err.IsOfSettings := by
  unfold make at h
  split at h
  · cases h
  · next herr =>
    cases h
    exact isOfSettings_of_check herr

namespace Stretching

variable {err : Error}

/-- A setting under a name that a function does not know is refused. -/
theorem family_of_known {function maker : String} {names : List String}
    {settings : List (Units × Setting)} (h : known function maker names settings = .error err) :
    err.family = .stretching := by
  induction settings with
  | nil => cases h
  | cons p settings ih =>
    rw [known] at h
    split at h
    · cases h
      rfl
    · split at h
      · exact ih h
      · cases h
        rfl

/-- What is put down to the settings of a function is told as that. -/
theorem family_of_within {α : Type} {function : String} {x : Except Error α}
    (hx : ∀ err, x = .error err → err.IsOfSettings) (h : within function x = .error err) :
    err.family = .stretching := by
  unfold within at h
  split at h
  · cases h
    rfl
  · next hkind =>
    obtain hfamily | ⟨reason, rfl⟩ := hx err h
    · exact hfamily
    · exact absurd h (hkind reason)

/-- A function is refused for its name or its settings. -/
theorem family_of_ofName {name : Units} {settings : List (Units × Setting)}
    (h : ofName name settings = .error err) : err.family = .stretching := by
  unfold ofName at h
  dsimp only at h
  split at h
  · obtain h | ⟨-, -, h⟩ := Except.bind_eq_error_iff.mp h
    · exact family_of_known h
    · cases h
  · obtain h | ⟨-, -, h⟩ := Except.bind_eq_error_iff.mp h
    · exact family_of_known h
    · exact family_of_within (fun err h ↦
        Scrypt.Parameters.isOfSettings_of_make (Except.map_eq_error_iff.mp h)) h
  · obtain h | ⟨-, -, h⟩ := Except.bind_eq_error_iff.mp h
    · exact family_of_known h
    · exact family_of_within (fun err h ↦
        Argon2.Parameters.isOfSettings_of_make (Except.map_eq_error_iff.mp h)) h
  · cases h
    rfl

/-- A function is refused for its name or its settings, or because what stands for its name cannot
be looked up. -/
theorem ofJson_cases {name : Json} {settings : List (Units × Setting)}
    (h : ofJson name settings = .error err) :
    err.isOfContent = true ∨ err.family = .stretching := by
  obtain h | ⟨-, -, h⟩ := Except.bind_eq_error_iff.mp h
  · exact .inl (Json.isOfContent_of_checkKey h)
  · cases name with
    | _ => exact .inr (family_of_ofName h)

end Stretching

namespace RecordStore

variable {j : Json} {err : Error}

/-- A content is not read because it is no text, because of a mistake in the text, or because its
values are nested too deep. -/
theorem readJson_cases {content : Bytes} (h : readJson content = .error err) :
    err.isOfContent = true ∨ err = .nestedTooDeep := by
  unfold readJson at h
  split at h
  · next text _ =>
    unfold Json.read at h
    cases hdocument : Json.document (Text.withLineFeeds text.toList) with
    | ok v =>
      rw [hdocument] at h
      cases h
    | error halt =>
      rw [hdocument] at h
      cases h
      exact halt.error_cases _
  · cases h
    exact .inl rfl

/-- Where there is no member of a name, it is missing or the value holds none. -/
theorem isOfContent_of_member {key : String} (h : member j key = .error err) :
    err.isOfContent = true := by
  cases j with
  | object ms =>
    unfold member Json.child at h
    dsimp only [Json.ofString] at h
    cases hlookup : ms.lookup (Units.ofString key) with
    | none =>
      rw [hlookup] at h
      cases h
      rfl
    | some v =>
      rw [hlookup] at h
      cases h
  | _ =>
    cases h
    rfl

/-- What is no text of base64 holds no bytes. -/
theorem isOfContent_of_readBytes {name : String} (h : readBytes name j = .error err) :
    err.isOfContent = true := by
  cases j with
  | text us =>
    unfold readBytes bytesOfBase64 at h
    dsimp only at h
    cases hdecode : Base64.decode us.toText.toList with
    | error defect =>
      rw [hdecode] at h
      cases h
      rfl
    | ok bs =>
      rw [hdecode] at h
      cases h
  | _ =>
    cases h
    rfl

/-- What stands where a suite is named is no name of one. -/
theorem isOfContent_of_readSuite {f : Stretching} (h : readSuite f j = .error err) :
    err.isOfContent = true := by
  obtain h | ⟨-, -, h⟩ := Except.bind_eq_error_iff.mp h
  · exact Json.isOfContent_of_checkKey h
  · cases j with
    | text us =>
      dsimp only at h
      unfold Suite.ofName at h
      split at h
      · cases h
      · cases h
        rfl
    | _ =>
      cases h
      rfl

/-- What stands for settings holds none, or one for the name. -/
theorem isOfContent_of_readSettings (h : readSettings j = .error err) :
    err.isOfContent = true := by
  cases j with
  | object ms =>
    unfold readSettings at h
    dsimp only at h
    split at h
    · cases h
      rfl
    · cases h
  | _ =>
    cases h
    rfl

/-- A stretching function is not named as the file requires, or is refused for its name or its
settings. -/
theorem readStretching_cases (h : readStretching j = .error err) :
    err.isOfContent = true ∨ err.family = .stretching := by
  obtain h | ⟨name, -, h⟩ := Except.bind_eq_error_iff.mp h
  · exact .inl (isOfContent_of_member h)
  obtain h | ⟨params, -, h⟩ := Except.bind_eq_error_iff.mp h
  · exact .inl (isOfContent_of_member h)
  obtain h | ⟨settings, -, h⟩ := Except.bind_eq_error_iff.mp h
  · exact .inl (isOfContent_of_readSettings h)
  · exact Stretching.ofJson_cases h

variable [Groups]

/-- A record is not read because it is no text of base64, or because its bytes stand for none. -/
theorem isOfContent_of_readRecord {s : Suite} {identifier : Units}
    (h : readRecord s identifier j = .error err) : err.isOfContent = true := by
  obtain h | ⟨bs, -, h⟩ := Except.bind_eq_error_iff.mp h
  · exact isOfContent_of_readBytes h
  · obtain h | ⟨_, -, h⟩ := Except.bind_eq_error_iff.mp h
    · have hupload := Record.ofBytes_eq_error_iff.mp h
      by_cases hlength : bs.length = MessageKind.registrationUpload.length s
      · exact Error.isOfContent_of_decoding
          ((Message.decides_ofBytes hlength).family_eq err hupload)
      · cases hupload.symm.trans (Message.ofBytes_of_length_ne hlength)
        rfl
    · cases h

end RecordStore

/-! ### Setups that are refused -/

/-- A scalar is derived unless all attempts give zero. -/
theorem PrimeGroup.eq_of_deriveScalar_error {g : PrimeGroup} {h : HashAlgorithm}
    {seed info : Bytes} {err : Error} (herr : g.deriveScalar h seed info = .error err) :
    err = .noDerivedScalar := by
  have hfrom (key : Bytes) (attempts counter : Nat)
      (herr : g.deriveFrom h key info attempts counter = .error err) : err = .noDerivedScalar := by
    induction attempts generalizing counter with
    | zero =>
      cases herr
      rfl
    | succ attempts ih =>
      rw [deriveFrom] at herr
      split at herr
      · exact ih _ herr
      · cases herr
  exact hfrom _ _ _ herr

/-- A private key is derived unless there is no scalar for it. -/
theorem ExchangeName.eq_of_derivePrivateKey_error [Groups] (sized : Groups.Sized)
    {x : ExchangeName} {h : HashAlgorithm} {seed : Bytes} {err : Error}
    (herr : x.derivePrivateKey h seed = .error err) : err = .noDerivedScalar := by
  cases x with
  | x25519 => cases herr
  | prime group =>
    obtain herr | ⟨k, hk, herr⟩ := Except.bind_eq_error_iff.mp herr
    · exact PrimeGroup.eq_of_deriveScalar_error herr
    · have hscalar := PrimeGroup.isScalar_of_deriveScalar (sized.prime group).order_pos hk
      rw [PrimeGroup.encodeScalar_of_isScalar (sized.prime group).scalarLength_lt hscalar] at herr
      cases herr

/-- A setup is refused for the size of its bytes or for its private key, or no stand-in key can be
derived. -/
theorem ServerSetup.ofBytes_cases [Groups] (sized : Groups.Sized) {s : Suite} {bs : Bytes}
    {err : Error} (h : ofBytes s bs = .error err) :
    err.isOfContent = true ∨ err = .noDerivedScalar := by
  by_cases hlength : bs.length = length s
  · cases hderive : s.exchange.derivePrivateKey s.hash
      (s.hash.expand (bs.take s.hashLength) standInKeyLabel s.seedLength) with
    | ok standIn =>
      have hpos (n : PrimeGroupName) : 0 < (Groups.prime n).order := (sized.prime n).order_pos
      exact .inl (Error.isOfContent_of_decoding
        ((decides_ofBytes hpos hlength hderive).family_eq err h))
    | error err' =>
      have hkey : (bs.drop s.hashLength).length = s.exchange.privateLength := by
        rw [List.length_drop, hlength]
        exact Nat.add_sub_cancel_left ..
      have hseed : (bs.take s.hashLength).length = s.hashLength := by
        rw [List.length_take, hlength]
        exact Nat.min_eq_left (Nat.le_add_right ..)
      unfold ofBytes make at h
      rw [if_neg (not_not_intro hlength), if_neg (not_not_intro hseed)] at h
      obtain h | ⟨_, -, h⟩ := Except.bind_eq_error_iff.mp h
      · exact .inl (Error.isOfContent_of_decoding
          ((ExchangeName.decides_publicKey hkey).family_eq err h))
      · rw [Except.bind_of_error hderive] at h
        cases h
        exact .inr (ExchangeName.eq_of_derivePrivateKey_error sized hderive)
  · cases h.symm.trans (ofBytes_of_length_ne hlength)
    exact .inl rfl

/-! ### What loading does not tell as a fault of the content -/

namespace RecordStore

section Reading

variable [Groups] {j : Json} {err : Error}

/-- The secrets in a file, with the suite that it names. -/
def readSetup (j : Json) : Except Error ServerSetup := do
  let stretching ← readStretching (← member j "ksf")
  let s ← readSuite stretching (← member j "suite")
  ServerSetup.ofBytes s (← readBytes "ServerSetup" (← member j "server_setup"))

/-- The records in a file whose secrets were read. -/
def readListed (path : String) (setup : ServerSetup) : Json → Except Error RecordStore
  | .object ms => do return ⟨path, setup, ← readRecords setup.suite ms⟩
  | _ => .error .recordsNotObject

/-- A store is read from its secrets and its records. -/
theorem ofJson_eq (path : String) (j : Json) :
    ofJson path j = (do readListed path (← readSetup j) (← member j "records")) := by
  unfold ofJson readSetup
  simp only [bind_assoc]
  refine Except.bind_eq_bind rfl fun _ _ ↦ Except.bind_eq_bind rfl fun _ _ ↦
    Except.bind_eq_bind rfl fun _ _ ↦ Except.bind_eq_bind rfl fun s _ ↦
    Except.bind_eq_bind rfl fun _ _ ↦ Except.bind_eq_bind rfl fun _ _ ↦
    Except.bind_eq_bind rfl fun setup hsetup ↦ Except.bind_eq_bind rfl fun v _ ↦ ?_
  obtain ⟨rfl, -⟩ := ServerSetup.toBytes_of_ofBytes hsetup
  cases v <;> rfl

/-- A content that is JSON is read as its value is. -/
theorem reading_eq {content : Bytes} (path : String) (hj : readJson content = .ok j) :
    readJson content >>= ofJson path =
      (do readListed path (← readSetup j) (← member j "records")) := by
  rw [← ofJson_eq, hj]
  rfl

/-- The ways in which the content of a file makes loading fail with a failure other than the
store's own. -/
inductive Leaks (content : Bytes) : Error → Prop
  /-- Values are nested too deep. -/
  | nesting : readJson content = .error .nestedTooDeep → Leaks content .nestedTooDeep
  /-- A stretching function is named that there is not, or one that refuses the settings. -/
  | stretching {j k : Json} {err : Error} : readJson content = .ok j → member j "ksf" = .ok k →
      readStretching k = .error err → err.family = .stretching → Leaks content err
  /-- No stand-in key can be derived from the seed. -/
  | standIn {j : Json} : readJson content = .ok j → readSetup j = .error .noDerivedScalar →
      Leaks content .noDerivedScalar
  /-- The records stand in something else than an object. -/
  | records {j v : Json} {setup : ServerSetup} : readJson content = .ok j →
      readSetup j = .ok setup → member j "records" = .ok v → (∀ ms, v ≠ .object ms) →
      Leaks content .recordsNotObject

/-- The secrets are not read because of the content, because of the stretching function, or because
no stand-in key can be derived. -/
theorem readSetup_cases (sized : Groups.Sized) (h : readSetup j = .error err) :
    err.isOfContent = true ∨
      (∃ k, member j "ksf" = .ok k ∧ readStretching k = .error err ∧ err.family = .stretching) ∨
      err = .noDerivedScalar := by
  obtain h | ⟨k, hk, h⟩ := Except.bind_eq_error_iff.mp h
  · exact .inl (isOfContent_of_member h)
  obtain h | ⟨_, -, h⟩ := Except.bind_eq_error_iff.mp h
  · exact (readStretching_cases h).imp id fun hfamily ↦ .inl ⟨k, hk, h, hfamily⟩
  obtain h | ⟨_, -, h⟩ := Except.bind_eq_error_iff.mp h
  · exact .inl (isOfContent_of_member h)
  obtain h | ⟨_, -, h⟩ := Except.bind_eq_error_iff.mp h
  · exact .inl (isOfContent_of_readSuite h)
  obtain h | ⟨_, -, h⟩ := Except.bind_eq_error_iff.mp h
  · exact .inl (isOfContent_of_member h)
  obtain h | ⟨_, -, h⟩ := Except.bind_eq_error_iff.mp h
  · exact .inl (isOfContent_of_readBytes h)
  · exact (ServerSetup.ofBytes_cases sized h).imp id .inr

/-- The records are not read because of the content, or because they stand in no object. -/
theorem readListed_cases {path : String} {setup : ServerSetup} {v : Json}
    (h : readListed path setup v = .error err) :
    err.isOfContent = true ∨ (∀ ms, v ≠ .object ms) ∧ err = .recordsNotObject := by
  cases v with
  | object ms =>
    obtain h | ⟨_, -, h⟩ := Except.bind_eq_error_iff.mp h
    · obtain ⟨_, -, h⟩ := Except.exists_of_mapM_error h
      exact .inl (isOfContent_of_readRecord h)
    · cases h
  | _ =>
    cases h
    exact .inr ⟨nofun, rfl⟩

/-- A content from which no store is read is at fault, or lets a failure out. -/
theorem reading_cases (sized : Groups.Sized) {path : String} {content : Bytes}
    (h : readJson content >>= ofJson path = .error err) :
    err.isOfContent = true ∨ Leaks content err := by
  obtain h | ⟨j, hj, h⟩ := Except.bind_eq_error_iff.mp h
  · obtain hcontent | rfl := readJson_cases h
    · exact .inl hcontent
    · exact .inr (.nesting h)
  rw [ofJson_eq] at h
  obtain h | ⟨setup, hsetup, h⟩ := Except.bind_eq_error_iff.mp h
  · obtain hcontent | ⟨k, hk, herr, hfamily⟩ | rfl := readSetup_cases sized h
    · exact .inl hcontent
    · exact .inr (.stretching hj hk herr hfamily)
    · exact .inr (.standIn hj h)
  obtain h | ⟨v, hv, h⟩ := Except.bind_eq_error_iff.mp h
  · exact .inl (isOfContent_of_member h)
  · obtain hcontent | ⟨hnone, rfl⟩ := readListed_cases h
    · exact .inl hcontent
    · exact .inr (.records hj hsetup hv hnone)

namespace Leaks

variable {content : Bytes}

/-- A failure that a content lets out stops the reading. -/
theorem reading (h : Leaks content err) (path : String) :
    readJson content >>= ofJson path = .error err := by
  cases h with
  | nesting h => exact Except.bind_of_error h
  | stretching hj hk herr hfamily =>
    rw [reading_eq path hj]
    exact Except.bind_of_error (Except.bind_of_ok hk (Except.bind_of_error herr))
  | standIn hj hsetup =>
    rw [reading_eq path hj]
    exact Except.bind_of_error hsetup
  | @records j v setup hj hsetup hv hnone =>
    rw [reading_eq path hj]
    refine Except.bind_of_ok hsetup (Except.bind_of_ok hv ?_)
    cases v with
    | object ms => exact absurd rfl (hnone ms)
    | _ => rfl

/-- Such a failure is neither put down to the content nor the store's own. -/
theorem foreign (h : Leaks content err) : err.isOfContent = false ∧ err.family ≠ .store := by
  cases h with
  | stretching _ _ _ hfamily => exact ⟨Error.isOfContent_of_stretching hfamily, by simp [hfamily]⟩
  | _ => exact ⟨rfl, nofun⟩

/-- So it comes out of loading. -/
theorem escapes (h : Leaks content err) (path : String) :
    ofFile path (some content) = .error err ∧ err.family ≠ .store := by
  obtain ⟨hcontent, hforeign⟩ := h.foreign
  refine ⟨?_, hforeign⟩
  unfold ofFile
  dsimp only
  rw [h.reading path]
  simp [hcontent]

end Leaks

/-- Loading an existing file gives a store or tells that its content is none, unless the content
lets another failure out. -/
theorem ofFile_cases (sized : Groups.Sized) (path : String) (content : Bytes) :
    (∃ store, ofFile path (some content) = .ok store) ∨
      (∃ cause, cause.isOfContent = true ∧
        ofFile path (some content) = .error (.storeCorrupt path cause)) ∨
      ∃ err, Leaks content err ∧ ofFile path (some content) = .error err := by
  cases hread : readJson content >>= ofJson path with
  | ok store => exact .inl ⟨store, ofFile_eq_ok_iff.mpr (Except.bind_eq_ok_iff.mp hread)⟩
  | error err =>
    right
    obtain hcontent | hleaks := reading_cases sized hread
    · refine .inl ⟨err, hcontent, ?_⟩
      unfold ofFile
      dsimp only
      rw [hread]
      simp [hcontent]
    · exact .inr ⟨err, hleaks, (hleaks.escapes path).1⟩

end Reading

section Standard

attribute [local instance] Groups.standard

/-- From the content of an existing file a store is loaded, or the store's own failure tells why it
holds none; another failure comes out of loading exactly in the four ways in which a content leaks
one. -/
theorem ofFile_leaks_iff (path : String) (content : Bytes) (err : Error) :
    ofFile path (some content) = .error err ∧ err.family ≠ .store ↔ Leaks content err := by
  constructor
  · rintro ⟨herr, hforeign⟩
    obtain ⟨store, hstore⟩ | ⟨cause, -, hcorrupt⟩ | ⟨err', hleaks, herr'⟩ :=
      ofFile_cases Groups.sized_standard path content
    · cases hstore.symm.trans herr
    · cases hcorrupt.symm.trans herr
      exact absurd rfl hforeign
    · cases herr'.symm.trans herr
      exact hleaks
  · exact fun hleaks ↦ hleaks.escapes path

/-- The JSON value of a store of the default suite whose records stand in a list. -/
def unlisted : Json :=
  .object (named [("suite", .ofString Suite.default.name), ("ksf", writeStretching .identity),
    ("server_setup", encoded (Bytes.zeros 64)), ("records", .array [])])

/-- That value lets out that a list has no items under names. -/
theorem ofFile_unlisted :
    let content := Bytes.ofString (String.ofList (Json.render (.lines 0) unlisted))
    ofFile "db" (some content) = .error .recordsNotObject ∧
      Error.recordsNotObject.family ≠ .store := by
  intro content
  have hreadable : unlisted.Readable Json.depthLimit := by
    have hkeys : ["suite", "ksf", "server_setup", "records"].Nodup := by decide
    exact ⟨by decide, nodup_named hkeys, trivial,
      readable_writeStretching (List.forall_mem_nil _), trivial, ⟨by decide, trivial⟩, trivial⟩
  have hderive : Suite.default.exchange.derivePrivateKey Suite.default.hash
      (Suite.default.hash.expand ((Bytes.zeros 64).take Suite.default.hashLength)
        ServerSetup.standInKeyLabel Suite.default.seedLength) = .ok _ := rfl
  have hkey :
      Suite.default.exchange.IsPrivateKey ((Bytes.zeros 64).drop Suite.default.hashLength) :=
    ⟨_, ExchangeName.publicKey_x25519_eq_ok_iff.mpr ⟨rfl, rfl⟩⟩
  obtain ⟨setup, hbytes⟩ := (ServerSetup.decides_ofBytes
    (fun n ↦ (Groups.sized_standard.prime n).order_pos) rfl hderive).exists_iff.mpr hkey
  have hsetup : readSetup unlisted = .ok setup :=
    Except.bind_of_ok (member_named rfl) <|
      Except.bind_of_ok (readStretching_write (List.forall_mem_nil _)) <|
      Except.bind_of_ok (member_named rfl) <|
      Except.bind_of_ok (Except.bind_of_ok rfl (Suite.ofName_name .default)) <|
      Except.bind_of_ok (member_named rfl) <|
      Except.bind_of_ok (readBytes_encoded _ _) hbytes
  have hleaks : Leaks content .recordsNotObject :=
    .records (readJson_render hreadable) hsetup (member_named rfl) nofun
  exact hleaks.escapes "db"

end Standard

end RecordStore

end Apake
