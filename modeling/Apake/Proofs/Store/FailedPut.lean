import Apake.Proofs.Store.Durability

/-!
# What a failed put leaves behind

A put writes the whole store and fails if its secrets or any of its records cannot be written.  The
file is then as before, but the store keeps the record: it is found and counted, and as long as it
stands no put under another identifier reaches the file.  Only where the record stood already does a
failed put change nothing.
-/

namespace Apake.RecordStore

section Attempts

variable [Groups] {store : RecordStore} {content : Bytes} {identifier : Units} {record : Record}

/-- A store with the content of its file after a put, whether the put returned or not. -/
def afterPut (state : RecordStore × Bytes) (identifier : Units) (record : Record) :
    RecordStore × Bytes :=
  match state.1.put identifier record with
  | (.ok written, after) => (after, written)
  | (.error _, after) => (after, state.2)

/-- A store with the content of its file after puts, each of which is made whatever became of those
before it. -/
def afterPuts (state : RecordStore × Bytes) (puts : List (Units × Record)) : RecordStore × Bytes :=
  puts.foldl (fun state p ↦ afterPut state p.1 p.2) state

/-- The store holds the record whatever becomes of the put. -/
theorem fst_afterPut (state : RecordStore × Bytes) (identifier : Units) (record : Record) :
    (afterPut state identifier record).1 =
      { state.1 with records := Json.insert identifier record state.1.records } := by
  unfold afterPut
  split <;> next h => exact congrArg Prod.snd h.symm

/-- The file is as before if the put failed. -/
theorem snd_afterPut_of_error {e : Error} (h : (store.put identifier record).1 = .error e) :
    (afterPut (store, content) identifier record).2 = content := by
  unfold afterPut
  split
  · next hok => cases h.symm.trans (congrArg Prod.fst hok)
  · rfl

/-- The record is found under its identifier, and every other as before. -/
theorem get?_afterPut (state : RecordStore × Bytes) (identifier : Units) (record : Record)
    (other : Units) :
    (afterPut state identifier record).1.get? other =
      if other = identifier then some record else state.1.get? other := by
  rw [fst_afterPut]
  exact Json.lookup_insert identifier record state.1.records other

/-- A put fails exactly if the secrets or one of the records, the new one among them, cannot be
written. -/
theorem exists_put_error_iff :
    (∃ e, (store.put identifier record).1 = .error e) ↔
      (∀ bs, store.setup.toBytes ≠ .ok bs) ∨
        ∃ p ∈ Json.insert identifier record store.records, ∀ bs, p.2.toBytes ≠ .ok bs := by
  let after : RecordStore :=
    { store with records := Json.insert identifier record store.records }
  have hfails : (∃ e, (store.put identifier record).1 = .error e) ↔
      ¬ ∃ content, after.toFile = .ok content := by
    show (∃ e, after.toFile = .error e) ↔ _
    cases after.toFile with
    | ok content => exact iff_of_false nofun fun hnone ↦ hnone ⟨content, rfl⟩
    | error e => exact iff_of_true ⟨e, rfl⟩ nofun
  rw [hfails, exists_toFile_iff]
  simp only [not_and_or, not_exists, not_forall, exists_prop, after, ne_eq]

/-- A put fails while another record stands in the store that cannot be written. -/
theorem exists_put_error {bad : Record} (hbad : ∀ bs, bad.toBytes ≠ .ok bs) {standing : Units}
    (hstands : store.get? standing = some bad) (hother : identifier ≠ standing) :
    ∃ e, (store.put identifier record).1 = .error e := by
  have hlookup : (Json.insert identifier record store.records).lookup standing = some bad := by
    rw [Json.lookup_insert, if_neg (Ne.symm hother)]
    exact hstands
  exact exists_put_error_iff.mpr (.inr ⟨_, Json.mem_of_lookup hlookup, hbad⟩)

/-- As long as a record stands in the store that cannot be written, puts under other identifiers
leave the file as it is. -/
theorem snd_afterPuts_of_get? {bad : Record} (hbad : ∀ bs, bad.toBytes ≠ .ok bs)
    {standing : Units} {puts : List (Units × Record)} (hputs : ∀ p ∈ puts, p.1 ≠ standing)
    {state : RecordStore × Bytes} (hstands : state.1.get? standing = some bad) :
    (afterPuts state puts).2 = state.2 := by
  induction puts generalizing state with
  | nil => rfl
  | cons p puts ih =>
    obtain ⟨hother, hputs⟩ := List.forall_mem_cons.mp hputs
    obtain ⟨e, he⟩ := exists_put_error hbad hstands hother
    have hstill : (afterPut state p.1 p.2).1.get? standing = some bad := by
      rw [get?_afterPut, if_neg (Ne.symm hother), hstands]
    exact (ih hputs hstill).trans (snd_afterPut_of_error he)

/-- A failed put leaves the file as it was and the store with the record: found, counted, and, if
it cannot be written, in the way of every later put under another identifier until one under its own
takes its place.  So it changes nothing exactly if the record stood there before. -/
theorem afterPut_eq_self_iff_of_error {e : Error}
    (h : (store.put identifier record).1 = .error e) (content : Bytes) :
    let after := afterPut (store, content) identifier record
    (after = (store, content) ↔ store.get? identifier = some record) ∧ after.2 = content ∧
      (∀ other, after.1.get? other =
        if other = identifier then some record else store.get? other) ∧
      (after.1.size = if (store.get? identifier).isSome then store.size else store.size + 1) ∧
      ((∀ bs, record.toBytes ≠ .ok bs) → ∀ puts : List (Units × Record),
        (∀ p ∈ puts, p.1 ≠ identifier) → (afterPuts after puts).2 = content) ∧
      ∀ other, after.1.put identifier other = store.put identifier other := by
  intro after
  have hstore : after.1 = { store with records := Json.insert identifier record store.records } :=
    fst_afterPut ..
  have hfile : after.2 = content := snd_afterPut_of_error h
  refine ⟨?_, hfile, get?_afterPut (store, content) identifier record, ?_, fun hbad puts hputs ↦ ?_,
    fun other ↦ ?_⟩
  · have hsame : after.1 = store ↔ Json.insert identifier record store.records = store.records := by
      rw [hstore]
      exact ⟨congrArg RecordStore.records, fun hrecords ↦ by rw [hrecords]⟩
    rw [Prod.ext_iff, and_iff_left hfile, hsame]
    exact Json.insert_eq_self_iff
  · rw [hstore]
    exact Json.length_insert identifier record store.records
  · have hstands : after.1.get? identifier = some record := by
      rw [get?_afterPut, if_pos rfl]
    exact (snd_afterPuts_of_get? hbad hputs hstands).trans hfile
  · unfold put
    rw [hstore, Json.insert_insert]

end Attempts

section Standard

attribute [local instance] Groups.standard

/-- A record of zeros without a masking key. -/
def maskless : Record := ⟨{ (zeroRecord .default).upload with maskingKey := [] }⟩

/-- Such a record cannot be written, so that putting it fails. -/
theorem exists_put_maskless_error (store : RecordStore) (identifier : Units) :
    (∀ bs, maskless.toBytes ≠ .ok bs) ∧ ∃ e, (store.put identifier maskless).1 = .error e := by
  have hbad : ∀ bs, maskless.toBytes ≠ .ok bs := by
    intro bs h
    have hsizes := (Message.toBytes_eq_ok_iff.mp h).1
    exact absurd hsizes (by decide)
  have hlookup : (Json.insert identifier maskless store.records).lookup identifier =
      some maskless := by
    rw [Json.lookup_insert, if_pos rfl]
  exact ⟨hbad, exists_put_error_iff.mpr (.inr ⟨_, Json.mem_of_lookup hlookup, hbad⟩)⟩

/-- A record without a masking key stays in a new store and keeps the next one from its file. -/
theorem afterPut_maskless :
    let alice := Units.ofString "alice"
    let bob := Units.ofString "bob"
    ∃ store content e, Obtained store content ∧ (store.put alice maskless).1 = .error e ∧
      (afterPut (store, content) alice maskless).1.get? alice = some maskless ∧
      (afterPuts (afterPut (store, content) alice maskless)
        [(bob, zeroRecord .default)]).2 = content := by
  intro alice bob
  obtain ⟨store, content, hcreate⟩ := exists_created_zeros
  obtain ⟨hbad, e, he⟩ := exists_put_maskless_error store alice
  obtain ⟨-, -, hfound, -, hblocked, -⟩ := afterPut_eq_self_iff_of_error he content
  refine ⟨store, content, e, .created hcreate, he, (hfound alice).trans (if_pos rfl),
    hblocked hbad _ ?_⟩
  exact List.forall_mem_singleton.mpr (by decide)

/-- A failed put into a new store changes it. -/
theorem afterPut_maskless_ne :
    ∃ store content e, Obtained store content ∧
      (store.put (Units.ofString "alice") maskless).1 = .error e ∧
      afterPut (store, content) (Units.ofString "alice") maskless ≠ (store, content) := by
  obtain ⟨store, content, hcreate⟩ := exists_created_zeros
  obtain ⟨-, e, he⟩ := exists_put_maskless_error store (Units.ofString "alice")
  refine ⟨store, content, e, .created hcreate, he, fun hsame ↦ ?_⟩
  have hfound := get?_afterPut (store, content) (Units.ofString "alice") maskless
    (Units.ofString "alice")
  obtain ⟨-, -, -, hrecords, -⟩ := made_of_create hcreate
  rw [hsame, if_pos rfl] at hfound
  unfold get? at hfound
  rw [hrecords] at hfound
  cases hfound

end Standard

end Apake.RecordStore
