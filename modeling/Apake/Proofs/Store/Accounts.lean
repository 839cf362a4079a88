import Apake.Proofs.Store.File

/-!
# Accounts of a store

A registration against a store is one of the protocol in which the client draws on from the supply
that its first step left behind, and a login is one in which the server does.  So the protocol's
promises hold for the accounts of a store, and what a command adds to a sound store leaves it sound.
-/

namespace Apake

namespace RecordStore

variable {store : RecordStore} {account : Units} {password : Bytes}

/-- An identifier without a record is none of those that have one. -/
theorem not_mem_of_get? (h : store.get? account = none) :
    account ∉ store.records.map Prod.fst := by
  intro hmem
  obtain ⟨p, hp, rfl⟩ := List.mem_map.mp hmem
  have hne := List.lookup_eq_none_iff.mp h p hp
  simp at hne

/-- The store with one more record at the end. -/
def extend (store : RecordStore) (account : Units) (record : Record) : RecordStore :=
  { store with records := store.records ++ [(account, record)] }

/-- A new record is found, and so are all those before. -/
theorem get?_extend (h : store.get? account = none) (record : Record) :
    (store.extend account record).get? account = some record ∧
      ∀ other r, store.get? other = some r → (store.extend account record).get? other = some r := by
  unfold get? at h ⊢
  unfold extend
  constructor
  · rw [List.lookup_append, h]
    simp
  · intro other r hr
    rw [List.lookup_append, hr]
    rfl

variable [Groups]

/-- A registration against a store is a registration under its setup. -/
theorem register_eq_run (store : RecordStore) (account : Units) (password : Bytes) (e : Entropy) :
    ((store.register account password).runOn e).1 =
      Registration.run store.setup (.text account) (.bytes password) (.bytes password) {} e
        ((Registration.start store.suite password).runOn e).2 := by
  unfold register Registration.run
  rw [Draw.fst_runOn_bind]
  refine Except.bind_eq_bind rfl fun x _ ↦ ?_
  rw [Draw.fst_runOn_lift_bind]
  refine Except.bind_eq_bind rfl fun identifier _ ↦ ?_
  rw [Draw.fst_runOn_lift_bind]
  refine Except.bind_eq_bind rfl fun response _ ↦ ?_
  rw [Draw.fst_runOn_bind]
  refine Except.bind_eq_bind rfl fun result _ ↦ ?_
  rw [Draw.fst_runOn_lift_bind]
  exact Except.bind_eq_bind rfl fun record _ ↦ rfl

/-- A login to an account of a store is a login against its record. -/
theorem login_eq_run {record : Record} (h : store.get? account = some record) (password : Bytes)
    (e : Entropy) :
    ((store.login account password).runOn e).1 =
      Login.run store.setup record (.text account) (.bytes password) {} e
        ((Login.start store.suite password).runOn e).2 := by
  unfold login Login.run
  rw [Draw.fst_runOn_bind, h]
  refine Except.bind_eq_bind rfl fun x _ ↦ ?_
  rw [Draw.fst_runOn_lift_bind]
  refine Except.bind_eq_bind rfl fun identifier _ ↦ ?_
  rw [Draw.fst_runOn_bind]
  refine Except.bind_eq_bind rfl fun y _ ↦ ?_
  rw [Draw.fst_runOn_lift_bind]
  refine Except.bind_eq_bind rfl fun client _ ↦ ?_
  rw [Draw.fst_runOn_lift_bind]
  exact Except.bind_eq_bind rfl fun serverKey _ ↦ rfl

section Registered

variable {record : Record} {exportKey : Bytes} {e : Entropy}

/-- A registration against a store comes to its end, unless a source fails. -/
theorem register_served {t : Trust} (lawful : store.suite.Lawful) (trusted : t.Sound store.suite)
    {seed privateKey identifier randomized : Bytes} {key : Nat}
    {point : store.setup.suite.group.Element} (holds : store.setup.Holds seed privateKey)
    (haccount : Phrase.toBytes (.text account) = .ok identifier)
    (evaluation : Evaluation store.setup identifier password key point randomized)
    (he : t.admits e.source) :
    Served t (fun _ ↦ True) ((store.register account password).runOn e).1 := by
  have hstart : (Registration.start store.suite password).Serves t fun _ ↦ True :=
    (Blinding.blind_serves trusted evaluation.hash).bind fun _ _ ↦ .pure trivial
  have hlater : t.admits ((Registration.start store.suite password).runOn e).2.source := by
    rwa [(hstart e he).1]
  obtain ⟨clear, hclear⟩ : ∃ clear, Envelope.cleartext store.setup.publicKey {} = .ok clear :=
    Envelope.exists_cleartext_iff.mpr (by decide)
  rw [register_eq_run]
  exact Registration.run_served lawful trusted holds rfl haccount rfl evaluation hclear he hlater

/-- A record that was registered against a store can be written and comes back from its bytes. -/
theorem written_of_register (lawful : store.suite.Lawful) (sound : store.Sound)
    (h : ((store.register account password).runOn e).1 = .ok (record, exportKey)) :
    ∃ bs, record.toBytes = .ok bs ∧ Record.ofBytes store.suite bs = .ok record := by
  obtain ⟨seed, privateKey, hmake⟩ := sound.made
  obtain ⟨-, holds⟩ := ServerSetup.holds_of_make hmake
  rw [register_eq_run] at h
  obtain ⟨_, _, _, _, _, -, -, -, enrolled⟩ := Registration.enrolled_of_run lawful holds rfl h
  obtain ⟨bs, hbs, hread⟩ := Registration.arrives_of_enrolled lawful.exchange.regular enrolled
  have hsuite : record.upload.suite = store.suite := enrolled.suite
  exact ⟨bs, hbs, Record.ofBytes_eq_ok_iff.mpr (hsuite ▸ hread)⟩

/-- A record that was registered against a store comes back from its bytes. -/
theorem returns_of_register (lawful : store.suite.Lawful) (sound : store.Sound)
    (h : ((store.register account password).runOn e).1 = .ok (record, exportKey)) :
    Returns store.suite record := by
  obtain ⟨bs, hbs, hread⟩ := written_of_register lawful sound h
  intro bs' hbs'
  obtain rfl : bs = bs' := Except.ok.inj (hbs.symm.trans hbs')
  exact hread

/-- A login with the password to an account of a store with the same setup that has the registered
record gives both sides one key and the client the export key, unless a source fails. -/
theorem login_served {t : Trust} (lawful : store.suite.Lawful) (trusted : t.Sound store.suite)
    (sound : store.Sound)
    (h : ((store.register account password).runOn e).1 = .ok (record, exportKey))
    {later : RecordStore} (hsetup : later.setup = store.setup)
    (hrecord : later.get? account = some record) {e' : Entropy} (he : t.admits e'.source) :
    Served t (fun session ↦ session.client.sessionKey = session.serverKey ∧
      session.client.exportKey = exportKey) ((later.login account password).runOn e').1 := by
  obtain ⟨seed, privateKey, hmake⟩ := sound.made
  obtain ⟨-, holds⟩ := ServerSetup.holds_of_make hmake
  rw [register_eq_run] at h
  obtain ⟨_, secret, _, _, _, haccount, hsecret, evaluation, enrolled⟩ :=
    Registration.enrolled_of_run lawful holds rfl h
  obtain rfl : password = secret := Except.ok.inj hsecret
  have hsuite : later.suite = store.suite := congrArg ServerSetup.suite hsetup
  have hstart : t.admits ((Login.start later.suite password).runOn e').2.source := by
    have hsame : ((Login.start store.suite password).runOn e').2.source = e'.source :=
      ((Login.start_serves lawful trusted evaluation.hash) e' he).1
    rwa [hsuite, hsame]
  rw [login_eq_run hrecord, hsetup]
  exact (Login.run_served lawful trusted holds evaluation enrolled haccount hsecret (by decide) he
    hstart).mono fun session ⟨hagree, hexport, _⟩ ↦ ⟨hagree, hexport⟩

/-- An account of a store with the same setup that has the registered record logs in with the
password, unless the source fails or has it search without end. -/
theorem session_of_register (lawful : store.suite.Lawful) (sound : store.Sound)
    (h : ((store.register account password).runOn e).1 = .ok (record, exportKey))
    {later : RecordStore} (hsetup : later.setup = store.setup)
    (hrecord : later.get? account = some record) {e' : Entropy}
    (hsource : ∀ err, ((later.login account password).runOn e').1 = .error err →
      err.family ≠ .randomness)
    (hends : store.suite.Searches → ((later.login account password).runOn e').1 ≠
      .error .endless) :
    ∃ session, ((later.login account password).runOn e').1 = .ok session ∧
      session.client.sessionKey = session.serverKey ∧ session.client.exportKey = exportKey :=
  (login_served lawful (Trust.anySource_sound lawful) sound h hsetup hrecord
    trivial).exists_of_sources hsource hends

end Registered

/-- A store that was created has secrets that were made, no records, and the content of its file. -/
theorem made_of_create {path : String} {s : Suite} {content : Bytes} {e : Entropy}
    (h : ((create path s).runOn e).1 = .ok (store, content)) :
    (∃ seed privateKey, ServerSetup.make store.suite seed privateKey = .ok store.setup) ∧
      store.path = path ∧ store.suite = s ∧ store.records = [] ∧ store.toFile = .ok content := by
  obtain ⟨setup, e₁, hsetup, h⟩ := Draw.runOn_bind_eq_ok_iff.mp (Draw.runOn_of_fst h)
  obtain ⟨_, hfile, h⟩ := Draw.runOn_lift_bind_eq_ok_iff.mp h
  cases h
  obtain ⟨seed, _, -, hsetup⟩ := Draw.runOn_bind_eq_ok_iff.mp hsetup
  obtain ⟨privateKey, _, -, hsetup⟩ := Draw.runOn_bind_eq_ok_iff.mp hsetup
  rw [Draw.runOn_lift] at hsetup
  have hmake : ServerSetup.make s seed privateKey = .ok setup := (Prod.mk.inj hsetup).1
  obtain ⟨rfl, -⟩ := ServerSetup.holds_of_make hmake
  exact ⟨⟨seed, privateKey, hmake⟩, rfl, rfl, rfl, hfile⟩

/-- A store is created if its secrets are drawn and it can be written. -/
theorem create_of_generate {path : String} {s : Suite} {setup : ServerSetup} {content : Bytes}
    {e : Entropy} (hgenerate : ((ServerSetup.generate s).runOn e).1 = .ok setup)
    (hfile : RecordStore.toFile ⟨path, setup, []⟩ = .ok content) :
    ((create path s).runOn e).1 = .ok (⟨path, setup, []⟩, content) := by
  unfold create
  rw [Draw.fst_runOn_bind]
  refine Except.bind_of_ok hgenerate ?_
  dsimp only
  rw [Draw.fst_runOn_lift_bind]
  exact Except.bind_of_ok hfile rfl

/-- A store that was created is sound. -/
theorem sound_of_create {path : String} {s : Suite} {content : Bytes} {e : Entropy}
    (hsettings : ∀ p ∈ s.stretching.parameters, p.2.IsWritten)
    (h : ((create path s).runOn e).1 = .ok (store, content)) :
    store.Sound ∧ store.path = path ∧ store.suite = s ∧ store.records = [] ∧
      store.toFile = .ok content := by
  obtain ⟨hmake, hpath, rfl, hrecords, hfile⟩ := made_of_create h
  have sound : store.Sound :=
    ⟨hmake, hsettings, hrecords ▸ List.forall_mem_nil _, hrecords ▸ List.nodup_nil⟩
  exact ⟨sound, hpath, rfl, hrecords, hfile⟩

/-- A record is put behind those of other identifiers. -/
theorem put_of_fresh (h : store.get? account = none) (record : Record) :
    (store.put account record).1 = (store.extend account record).toFile := by
  unfold put extend
  rw [Json.insert_of_not_mem (not_mem_of_get? h)]

/-- A new record leaves a sound store sound. -/
theorem Sound.extend (sound : store.Sound) (hfresh : store.get? account = none) {record : Record}
    (hreturns : Returns store.suite record) :
    (store.extend account record).Sound := by
  have hrecords : ∀ p ∈ store.records ++ [(account, record)], Returns store.suite p.2 := by
    simp only [List.forall_mem_append, List.forall_mem_cons]
    exact ⟨sound.records, hreturns, List.forall_mem_nil _⟩
  have hdistinct : ((store.records ++ [(account, record)]).map Prod.fst).Nodup := by
    rw [List.map_append, List.nodup_append]
    refine ⟨sound.distinct, by simp, fun k hk k' hk' heq ↦ not_mem_of_get? hfresh ?_⟩
    have haccount : k' = account := List.mem_singleton.mp hk'
    rwa [← haccount, ← heq]
  exact ⟨sound.made, sound.settings, hrecords, hdistinct⟩

end RecordStore

end Apake
