import Mathlib
import Apake.Proofs.Console.Arguments
import Apake.Proofs.Console.Commands
import Apake.Proofs.Console.Report
import Apake.Proofs.Protocol.Steady

/-!
# A store over the history of its commands

Setups, registrations and logins follow one another on one path, each of them with what its user
types and with an entropy supply of its own, and each may stop wherever it will.  From a path without
a file on, there is either no file or one that loads as a sound store, and the store of any time is
found again at all later times, with more records at its end.  So whoever was registered can log in
ever after.

A visit may fail at any point, but the disk does what it is told: once the place of a file is found
it is written whole, nothing takes a file away again, and no two visits overlap.
-/

namespace Apake.Console

open Program

section

variable [Groups] {d : Disk} {p : Path} {t : Terminal} {store : RecordStore}

/-- A disk on which the file of a path holds a sound store of a lawful suite. -/
structure HoldsStore (d : Disk) (p : Path) (store : RecordStore) : Prop where
  path : store.path = p.shown
  lawful : store.suite.Lawful
  sound : store.Sound
  file : ∃ content, store.toFile = .ok content ∧ d.find p = .ok (.file content)

/-- Whether a path leads to no file, or to one that holds a sound store. -/
def IsKept (d : Disk) (p : Path) : Prop := d.HasNoFile p ∨ ∃ store, HoldsStore d p store

/-- A later store that has the suite and the secrets of an earlier one and all its records. -/
structure Continues (earlier later : RecordStore) : Prop where
  suite : later.suite = earlier.suite
  setup : later.setup = earlier.setup
  records : ∀ account record, earlier.get? account = some record →
    later.get? account = some record

omit [Groups] in
theorem Continues.refl (store : RecordStore) : Continues store store :=
  ⟨rfl, rfl, fun _ _ h ↦ h⟩

omit [Groups] in
theorem Continues.trans {a b c : RecordStore} (hab : Continues a b) (hbc : Continues b c) :
    Continues a c :=
  ⟨hbc.suite.trans hab.suite, hbc.setup.trans hab.setup,
    fun account record h ↦ hbc.records account record (hab.records account record h)⟩

/-- A store that is held is loaded. -/
theorem HoldsStore.load (h : HoldsStore d p store) : loadStore d p = .ok store := by
  obtain ⟨content, hcontent, hfind⟩ := h.file
  refine Except.bind_of_ok (Disk.read_eq_ok_some_iff.mpr hfind) ?_
  rw [← h.path]
  exact RecordStore.ofFile_of_toFile h.sound hcontent

/-- A store is loaded only from a file. -/
theorem not_hasNoFile_of_load (h : loadStore d p = .ok store) : ¬ d.HasNoFile p := by
  intro hnone
  obtain ⟨content?, hread, h⟩ := Except.bind_eq_ok_iff.mp h
  cases content? with
  | none => cases h
  | some content => exact hnone content (Disk.read_eq_ok_some_iff.mp hread)

/-- What is loaded from a path that is kept is the store that is held there. -/
theorem IsKept.holdsStore (kept : IsKept d p) (h : loadStore d p = .ok store) :
    HoldsStore d p store := by
  rcases kept with hnone | ⟨other, held⟩
  · exact absurd hnone (not_hasNoFile_of_load h)
  · obtain rfl : other = store := Except.ok.inj (held.load.symm.trans h)
    exact held

/-- A store is held where its file was written. -/
theorem holdsStore_of_write {d' : Disk} {content : Bytes} (hpath : store.path = p.shown)
    (lawful : store.suite.Lawful) (sound : store.Sound) (hcontent : store.toFile = .ok content)
    (hwrite : (Disk.write p content).run.run d = (.ok (), d')) : HoldsStore d' p store :=
  ⟨hpath, lawful, sound, content, hcontent, Disk.find_of_write hwrite⟩

/-- What a command on a path can do, from how it ends and the disk that it leaves: it leaves the disk
as it was, it makes a way to a file that it then cannot write, it founds a store where there was no
file, or it puts a record of a new account in the store. -/
inductive Effect (c : Command) (p : Path) (t : Terminal) (r : Except Stop Report) (after : Disk) :
    Prop
  | nothing (disk : after = t.disk)
      (report : ∀ report, r = .ok report →
        ∃ user key key' exportKey, report = .loggedIn user key key' exportKey)
  | way (none : t.disk.HasNoFile p) (stillNone : after.HasNoFile p)
      (report : ∀ report, r ≠ .ok report)
  | founded {store : RecordStore} (none : t.disk.HasNoFile p) (held : HoldsStore after p store)
      (report : ∀ report, r = .ok report →
        report = .created p.shown store.suite store.setup.publicKey)
  | registered {o : AccountOptions} {store : RecordStore} {user password : String} {record : Record}
      {exportKey : Bytes} {t' : Terminal} (command : c = .register p o)
      (before : HoldsStore t.disk p store)
      (asked : (credentials true o).run.run t = (.ok (user, password), t'))
      (registers : Registers store user password record exportKey)
      (held : HoldsStore after p (store.extend (Units.ofString user) record))
      (report : ∀ report, r = .ok report → report = .registered user exportKey)

namespace Effect

variable {c : Command} {r : Except Stop Report} {after : Disk}

/-- A command that stops with the disk as it was has no effect. -/
theorem of_stopped (h : after = t.disk ∧ ∀ report, r ≠ .ok report) : Effect c p t r after :=
  .nothing h.1 fun report hr ↦ absurd hr (h.2 report)

/-- What a setup without replacement does. -/
theorem of_setup {o : SetupOptions} (hforce : o.force = false)
    (lawful : ∀ f, Suite.Lawful ⟨o.suite, f⟩)
    (hwritten : ∀ f, Stretching.ofName (Units.ofString o.function) o.settings = .ok f →
      ∀ p ∈ f.parameters, p.2.IsWritten) :
    Effect (.setup p o) p t ((setup p o).run.run t).1 ((setup p o).run.run t).2.disk := by
  rcases setup_endsInSave hforce t with hstopped | ⟨content, report, hsaved, hdisk, hreport⟩
  · exact of_stopped hstopped
  · obtain ⟨hfree, f, store, e, hf, hcreated, rfl⟩ := hsaved
    have hnone := Disk.hasNoFile_of_contains hfree
    rw [hdisk]
    revert hreport
    rcases hwrite : (Disk.write p content).run.run t.disk with ⟨w, d'⟩
    intro hreport
    cases w with
    | error e =>
      refine .way hnone (Disk.hasNoFile_of_write_error hnone hwrite) fun r hr ↦ ?_
      exact absurd (hreport r hr).2 nofun
    | ok =>
      obtain ⟨sound, hpath, hsuite, -, hcontent⟩ :=
        RecordStore.sound_of_create (hwritten f hf) hcreated
      refine .founded hnone
        (holdsStore_of_write hpath (hsuite ▸ lawful f) sound hcontent hwrite) fun r hr ↦ ?_
      rw [hsuite]
      exact (hreport r hr).1

/-- What a registration without replacement does. -/
theorem of_register {o : AccountOptions} (hforce : o.force = false) (kept : IsKept t.disk p) :
    Effect (.register p o) p t ((register p o).run.run t).1 ((register p o).run.run t).2.disk := by
  rcases register_endsInSave hforce t with hstopped | ⟨content, report, hsaved, hdisk, hreport⟩
  · exact of_stopped hstopped
  · obtain ⟨store, user, password, record, exportKey, t', hload, hasked, registers, hput, rfl⟩ :=
      hsaved
    have held := kept.holdsStore hload
    obtain ⟨e, hregistered⟩ := registers.run
    rw [RecordStore.put_of_fresh registers.fresh] at hput
    have hreturns := RecordStore.returns_of_register held.lawful held.sound hregistered
    obtain ⟨old, -, hold⟩ := held.file
    obtain ⟨d', hwrite⟩ := Disk.exists_write_of_find hold content
    rw [hdisk, hwrite]
    exact .registered rfl held hasked registers
      (holdsStore_of_write held.path held.lawful (held.sound.extend registers.fresh hreturns)
        hput hwrite) fun r hr ↦ (hreport r hr).1

/-- A login changes nothing. -/
theorem of_login (o : AccountOptions) :
    Effect (.login p o) p t ((login p o).run.run t).1 ((login p o).run.run t).2.disk :=
  .nothing (keepsDisk_login p o t) fun _ h ↦ report_of_login h

/-- A path is kept under every effect. -/
theorem isKept (effect : Effect c p t r after) (kept : IsKept t.disk p) : IsKept after p := by
  cases effect with
  | nothing disk => exact disk ▸ kept
  | way _ stillNone => exact .inl stillNone
  | founded _ held => exact .inr ⟨_, held⟩
  | registered _ _ _ _ held => exact .inr ⟨_, held⟩

/-- A store is continued under every effect. -/
theorem exists_continues (effect : Effect c p t r after) (held : HoldsStore t.disk p store) :
    ∃ later, HoldsStore after p later ∧ Continues store later := by
  cases effect with
  | nothing disk => exact ⟨store, disk ▸ held, .refl store⟩
  | way hnone => exact absurd hnone (not_hasNoFile_of_load held.load)
  | founded hnone => exact absurd hnone (not_hasNoFile_of_load held.load)
  | registered _ before _ registers held' =>
    obtain rfl := Except.ok.inj (before.load.symm.trans held.load)
    exact ⟨_, held', rfl, rfl, (RecordStore.get?_extend registers.fresh _).2⟩

/-- A new store is reported only where it is left. -/
theorem created {path : String} {suite : Suite} {publicKey : Bytes}
    (effect : Effect c p t (.ok (.created path suite publicKey)) after) :
    ∃ store, HoldsStore after p store ∧ store.suite = suite ∧
      store.setup.publicKey = publicKey := by
  cases effect with
  | nothing _ report =>
    obtain ⟨_, _, _, _, h⟩ := report _ rfl
    cases h
  | way _ _ report => exact absurd rfl (report _)
  | founded _ held report =>
    cases report _ rfl
    exact ⟨_, held, rfl, rfl⟩
  | registered _ _ _ _ _ report => cases report _ rfl

/-- A registration is reported only where a record was put in the store, for an account that was new
there. -/
theorem exists_registered {user : String} {exportKey : Bytes}
    (effect : Effect c p t (.ok (.registered user exportKey)) after) :
    ∃ o store password record t', c = .register p o ∧
      (credentials true o).run.run t = (.ok (user, password), t') ∧ HoldsStore t.disk p store ∧
      Registers store user password record exportKey ∧
      HoldsStore after p (store.extend (Units.ofString user) record) := by
  cases effect with
  | nothing _ report =>
    obtain ⟨_, _, _, _, h⟩ := report _ rfl
    cases h
  | way _ _ report => exact absurd rfl (report _)
  | founded _ _ report => cases report _ rfl
  | registered command before asked registers held report =>
    cases report _ rfl
    exact ⟨_, _, _, _, _, command, asked, before, registers, held⟩

end Effect

/-- A setup, a registration or a login on a path, as a command line can name one, that does not
replace anything; the suite of a setup is lawful. -/
structure Command.On (c : Command) (p : Path) : Prop where
  given : ∃ environment? args, command? environment? args = some c
  plain : match c with
    | .setup q o => q = p ∧ o.force = false
    | .register q o => q = p ∧ o.force = false
    | .login q _ => q = p
    | .menu | .info => False
  lawful : ∀ q o, c = .setup q o → ∀ f, Suite.Lawful ⟨o.suite, f⟩

/-- What a command on a kept path does. -/
theorem Command.On.effect {c : Command} (on : c.On p) (kept : IsKept t.disk p) :
    Effect c p t ((perform c).run.run t).1 ((perform c).run.run t).2.disk := by
  obtain ⟨⟨environment?, args, hcommand⟩, hplain, lawful⟩ := on
  cases c with
  | menu => cases hplain
  | info => cases hplain
  | setup q o =>
    obtain ⟨rfl, hforce⟩ := hplain
    rw [perform]
    exact .of_setup hforce (lawful q o rfl) fun f ↦ isWritten_of_command? hcommand
  | register q o =>
    obtain ⟨rfl, hforce⟩ := hplain
    rw [perform]
    exact .of_register hforce kept
  | login q o =>
    obtain rfl := hplain
    rw [perform]
    exact .of_login o

/-- One use of the program: a command, what is typed while it runs and the supply that it draws
from. -/
structure Visit where
  command : Command
  answers : Typed := []
  entropy : Entropy

namespace Visit

variable {v w : Visit}

/-- The terminal at the start of a visit. -/
def terminal (v : Visit) (d : Disk) : Terminal :=
  { disk := d, entropy := v.entropy, answers := v.answers }

/-- The disk after a visit. -/
def after (v : Visit) (d : Disk) : Disk := ((conclude v.command).run.run (v.terminal d)).2.disk

/-- The exit code of a visit, if it comes to its end. -/
def code? (v : Visit) (d : Disk) : Option Nat :=
  ((conclude v.command).run.run (v.terminal d)).1.toOption

/-- The report that a visit shows, if it succeeds. -/
def report? (v : Visit) (d : Disk) : Option Report :=
  ((reported v.command).run.run (v.terminal d)).1.toOption

/-- The user and the password that a visit is about, by its options or by what is typed. -/
def credentials? (v : Visit) : Option (String × String) :=
  match v.command with
  | .register _ o => ((credentials true o).run.run (v.terminal ⟨[], []⟩)).1.toOption
  | .login _ o => ((credentials false o).run.run (v.terminal ⟨[], []⟩)).1.toOption
  | _ => none

/-- The disk after a visit is the one that its command leaves behind. -/
theorem after_eq (v : Visit) (d : Disk) :
    v.after d = ((perform v.command).run.run (v.terminal d)).2.disk :=
  disk_conclude v.command (v.terminal d)

omit [Groups] in
/-- What is asked in a visit does not depend on the disk. -/
theorem credentials?_eq_some_iff {confirm : Bool} {o : AccountOptions} {user password : String} :
    ((credentials confirm o).run.run (v.terminal d)).1 = .ok (user, password) ↔
      ((credentials confirm o).run.run (v.terminal ⟨[], []⟩)).1.toOption =
        some (user, password) := by
  have hover := (aside_credentials confirm o).run_over (v.terminal ⟨[], []⟩) d v.entropy
  have hterminal : (v.terminal ⟨[], []⟩).over d v.entropy = v.terminal d := rfl
  rw [hterminal] at hover
  rw [hover]
  dsimp only
  cases ((credentials confirm o).run.run (v.terminal ⟨[], []⟩)).1 <;> simp [Except.toOption]

/-- A shown report is that of the command, and its lines can be shown. -/
theorem perform_of_report? {r : Report} (h : v.report? d = some r) :
    ((perform v.command).run.run (v.terminal d)).1 = .ok r ∧ CanBeShown r.lines := by
  unfold report? at h
  rcases hrun : (reported v.command).run.run (v.terminal d) with ⟨x, t'⟩
  rw [hrun] at h
  cases x with
  | error e => cases h
  | ok report =>
    cases h
    exact perform_of_reported hrun

/-- The report of a command is shown, and the visit ends with code zero, if the lines of the report
can be shown and nothing is stuck. -/
theorem report?_of_perform {r : Report}
    (h : (perform v.command).run.run (v.terminal d) = (.ok r, t)) (hstuck : t.stuck = false)
    (hlines : CanBeShown r.lines) : v.report? d = some r ∧ v.code? d = some 0 := by
  obtain ⟨t', hshown⟩ := exists_reported h hstuck hlines
  unfold report? code?
  rw [hshown, conclude_of_reported hshown]
  exact ⟨rfl, rfl⟩

/-- What a visit to a kept path does. -/
theorem effect (on : v.command.On p) (kept : IsKept d p) :
    Effect v.command p (v.terminal d) ((perform v.command).run.run (v.terminal d)).1
      (v.after d) := by
  rw [after_eq]
  exact on.effect kept

/-- A visit leaves a path kept. -/
theorem isKept_after (on : v.command.On p) (kept : IsKept d p) : IsKept (v.after d) p :=
  (v.effect on kept).isKept kept

/-- A visit leaves a store that continues the one it found. -/
theorem exists_continues_after (on : v.command.On p) (held : HoldsStore d p store) :
    ∃ later, HoldsStore (v.after d) p later ∧ Continues store later :=
  (v.effect on (.inr ⟨store, held⟩)).exists_continues held

/-- A login whose two sides agree shows that and ends with code zero, if the report of a registration
of the user could be shown. -/
theorem report?_of_login {o : AccountOptions} (hcommand : w.command = .login p o)
    (hload : loadStore d p = .ok store) {user password : String}
    (hasked : w.credentials? = some (user, password)) {session : RecordStore.Session}
    (hsession : ((store.login (Units.ofString user) (Bytes.ofString password)).runOn
      w.entropy).1 = .ok session) (hagree : session.client.sessionKey = session.serverKey)
    {exportKey : Bytes} (hlines : CanBeShown (Report.registered user exportKey).lines) :
    w.report? d = some (.loggedIn user session.serverKey session.serverKey
      session.client.exportKey) ∧ w.code? d = some 0 := by
  have hcredentials : ((credentials false o).run.run (w.terminal ⟨[], []⟩)).1.toOption =
      some (user, password) := by
    unfold credentials? at hasked
    rwa [hcommand] at hasked
  have hrun := (credentials?_eq_some_iff (d := d)).mpr hcredentials
  obtain ⟨t', hlogin, hstuck⟩ := run_login (t := w.terminal d) hload (Prod.ext hrun rfl) hsession
  rw [hagree] at hlogin
  have hperform : (perform w.command).run.run (w.terminal d) =
      (.ok (.loggedIn user session.serverKey session.serverKey session.client.exportKey), t') := by
    rw [hcommand]
    exact hlogin
  exact report?_of_perform hperform hstuck
    (canBeShown_loggedIn hlines session.serverKey session.client.exportKey)

end Visit

/-- The disk after visits one after another. -/
def history (d : Disk) (visits : List Visit) : Disk := visits.foldl (fun d v ↦ v.after d) d

theorem history_append (d : Disk) (past later : List Visit) :
    history d (past ++ later) = history (history d past) later := List.foldl_append

/-- Visits leave a path kept. -/
theorem isKept_history {visits : List Visit} (on : ∀ v ∈ visits, v.command.On p)
    (kept : IsKept d p) : IsKept (history d visits) p := by
  induction visits generalizing d with
  | nil => exact kept
  | cons v visits ih =>
    obtain ⟨hv, hvisits⟩ := List.forall_mem_cons.mp on
    exact ih hvisits (v.isKept_after hv kept)

/-- Visits leave a store that continues the one they found. -/
theorem exists_continues_history {visits : List Visit} (on : ∀ v ∈ visits, v.command.On p)
    (held : HoldsStore d p store) :
    ∃ later, HoldsStore (history d visits) p later ∧ Continues store later := by
  induction visits generalizing d store with
  | nil => exact ⟨store, held, .refl store⟩
  | cons v visits ih =>
    obtain ⟨hv, hvisits⟩ := List.forall_mem_cons.mp on
    obtain ⟨next, held', hnext⟩ := v.exists_continues_after hv held
    obtain ⟨last, held'', hlast⟩ := ih hvisits held'
    exact ⟨last, held'', hnext.trans hlast⟩

end

section

attribute [local instance] Groups.closed

open Residue

/-- A source of zeros, but for requests of the size of a private key over residues. -/
def zeroSource : Source := fun _ n ↦ .bytes (if n = 28 then Bytes.ofNat 28 1 else Bytes.zeros n)

/-- A setup over residues. -/
def founding : Visit where
  command := .setup ⟨"db"⟩ { suite := .i2048Sha256 }
  entropy := ⟨zeroSource, []⟩

/-- The account that is registered and logs in. -/
def ownAccount : AccountOptions := { user := some "alice", password := some "secret" }

/-- Its registration. -/
def joining : Visit where
  command := .register ⟨"db"⟩ ownAccount
  entropy := ⟨.steady, []⟩

/-- Its login. -/
def returning : Visit where
  command := .login ⟨"db"⟩ ownAccount
  entropy := ⟨.steady, []⟩

-- Texts are split by well-founded recursion, which neither `rfl` nor `decide` unfolds.
theorem names_db : Path.names ⟨"db"⟩ = ["db"] := by cbv

theorem shown_db : Path.shown ⟨"db"⟩ = "db" := by
  unfold Path.shown
  rw [names_db]
  decide

theorem on_founding : founding.command.On ⟨"db"⟩ := by
  refine ⟨⟨none, ["setup", "--store", "db", "--suite", "i2048-sha256"], by decide⟩, ⟨rfl, rfl⟩, ?_⟩
  rintro _ _ ⟨⟩ f
  exact Suite.lawful_i2048 f

theorem on_joining : joining.command.On ⟨"db"⟩ :=
  ⟨⟨none, ["register", "--store", "db", "--user", "alice", "--password", "secret"], by decide⟩,
    ⟨rfl, rfl⟩, nofun⟩

/-- The founding draws the seed of zeros and the private key of one. -/
theorem generate_zeroSource : ((ServerSetup.generate plainSuite).runOn ⟨zeroSource, []⟩).1 =
    ServerSetup.make plainSuite (Bytes.zeros 32) (Bytes.ofNat 28 1) := by
  have hseed : (Draw.bytes plainSuite.hashLength).runOn ⟨zeroSource, []⟩ =
      (.ok (Bytes.zeros 32), ⟨zeroSource, [32]⟩) := rfl
  have hscalar : plainSuite.group.randomScalar.runOn ⟨zeroSource, [32]⟩ =
      (.ok 1, ⟨zeroSource, [28, 32]⟩) :=
    PrimeGroup.runOn_randomScalar_reject rfl (isScalar_of_lt Nat.one_pos prime_order.one_lt)
      (by decide) rfl
  have hprivate : plainSuite.exchange.randomPrivateKey.runOn ⟨zeroSource, [32]⟩ =
      (.ok (Bytes.ofNat 28 1), ⟨zeroSource, [28, 32]⟩) := Draw.runOn_bind_of_ok hscalar rfl
  unfold ServerSetup.generate
  rw [Draw.runOn_bind_of_ok hseed rfl, Draw.runOn_bind_of_ok hprivate rfl, Draw.runOn_lift]

theorem locate_db : Disk.locate ⟨[], []⟩ ⟨"db"⟩ = .ok ["db"] :=
  Disk.locate_of_name (by decide) names_db (by decide) (by decide) (by decide)

theorem contains_db : Disk.contains ⟨[], []⟩ ⟨"db"⟩ = .ok false :=
  Disk.contains_of_free locate_db (by decide)

/-- On an empty disk a store is founded, in whose setup the key of the account is not one. -/
theorem exists_founded : ∃ store key,
    founding.report? ⟨[], []⟩ = some (.created "db" plainSuite store.setup.publicKey) ∧
      HoldsStore (founding.after ⟨[], []⟩) ⟨"db"⟩ store ∧ store.records = [] ∧
      ServerSetup.make plainSuite (Bytes.zeros 32) (Bytes.ofNat 28 1) = .ok store.setup ∧
      store.setup.accountKey (Bytes.ofString "alice") = .ok key ∧ key ≠ 1 := by
  obtain ⟨setup, key, hmake, hkey, hne⟩ := exists_setup
  obtain ⟨hsuite, holds⟩ := ServerSetup.holds_of_make hmake
  let store : RecordStore := ⟨"db", setup, []⟩
  have hsame : store.suite = plainSuite := hsuite
  obtain ⟨content, hcontent⟩ : ∃ content, store.toFile = .ok content :=
    RecordStore.exists_toFile holds (List.forall_mem_nil _)
  have hcreated : ((RecordStore.create (Path.shown ⟨"db"⟩) plainSuite).runOn ⟨zeroSource, []⟩).1 =
      .ok (store, content) := by
    rw [shown_db]
    exact RecordStore.create_of_generate (generate_zeroSource.trans hmake) hcontent
  have hnames : (Path.names ⟨"db"⟩).length ≤ 1 ∧ (Path.names ⟨"db"⟩).getLast? ≠ some ".." := by
    rw [names_db]
    decide
  obtain ⟨d', hwrite⟩ := Disk.exists_write_of_free hnames.1 hnames.2 locate_db (by decide) content
  obtain ⟨t', hrun, hdisk, hstuck⟩ := run_setup (t := founding.terminal ⟨[], []⟩)
    (o := { suite := .i2048Sha256 }) rfl contains_db hcreated hwrite
  rw [shown_db] at hrun
  have hperform : (perform founding.command).run.run (founding.terminal ⟨[], []⟩) =
      (.ok (.created "db" plainSuite setup.publicKey), t') := hrun
  refine ⟨store, key, ?_, ?_, rfl, hmake, hkey, hne⟩
  · exact (Visit.report?_of_perform hperform hstuck (canBeShown_created (by decide) _ _)).1
  · rw [Visit.after_eq, hperform, hdisk]
    obtain ⟨sound, -⟩ := RecordStore.sound_of_create (List.forall_mem_nil _) hcreated
    exact holdsStore_of_write shown_db.symm (hsame ▸ plainSuite_lawful) sound hcontent hwrite

/-- In a founded store the account is registered. -/
theorem exists_joined {d : Disk} {store : RecordStore} (held : HoldsStore d ⟨"db"⟩ store)
    (hrecords : store.records = [])
    (hmake : ServerSetup.make plainSuite (Bytes.zeros 32) (Bytes.ofNat 28 1) = .ok store.setup)
    {key : Nat} (hkey : store.setup.accountKey (Bytes.ofString "alice") = .ok key) (hne : key ≠ 1) :
    ∃ record exportKey, joining.report? d = some (.registered "alice" exportKey) ∧
      Registers store "alice" "secret" record exportKey ∧
      HoldsStore (joining.after d) ⟨"db"⟩ (store.extend (Units.ofString "alice") record) := by
  obtain ⟨hsuite, holds⟩ := ServerSetup.holds_of_make hmake
  have hsame : store.suite = plainSuite := hsuite
  have hlength : (Bytes.ofString "secret").length < 256 ^ 2 := by decide
  obtain ⟨point, randomized, evaluation⟩ := exists_evaluation hsuite holds hkey hne hlength
  have hserved : Served .steady _ ((store.register (Units.ofString "alice")
      (Bytes.ofString "secret")).runOn ⟨.steady, []⟩).1 :=
    RecordStore.register_served held.lawful (hsame ▸ steady_sound) holds toBytes_alice evaluation
      rfl
  obtain ⟨⟨record, exportKey⟩, hregistered, -⟩ := hserved.exists_of_not_excused fun _ _ h ↦ h
  have hfresh : store.get? (Units.ofString "alice") = none := by
    unfold RecordStore.get?
    rw [hrecords]
    rfl
  obtain ⟨bs, hbs, -⟩ := RecordStore.written_of_register held.lawful held.sound hregistered
  obtain ⟨content, hcontent⟩ : ∃ content,
      (store.extend (Units.ofString "alice") record).toFile = .ok content := by
    refine RecordStore.exists_toFile holds fun p hp ↦ ?_
    have hp : p ∈ store.records ++ [(Units.ofString "alice", record)] := hp
    rw [hrecords] at hp
    obtain rfl := List.mem_singleton.mp hp
    exact ⟨bs, hbs⟩
  obtain ⟨old, -, hold⟩ := held.file
  obtain ⟨d', hwrite⟩ := Disk.exists_write_of_find hold content
  obtain ⟨t', hrun, hdisk, hstuck⟩ := run_register (t := joining.terminal d) (o := ownAccount)
    held.load rfl hfresh hregistered (RecordStore.put_of_fresh hfresh record ▸ hcontent) hwrite
  have hperform : (perform joining.command).run.run (joining.terminal d) =
      (.ok (.registered "alice" exportKey), t') := hrun
  refine ⟨record, exportKey, ?_, ⟨hfresh, _, hregistered⟩, ?_⟩
  · exact (Visit.report?_of_perform hperform hstuck (canBeShown_registered (by decide) _)).1
  · rw [Visit.after_eq, hperform, hdisk]
    exact holdsStore_of_write held.path held.lawful
      (held.sound.extend hfresh
        (RecordStore.returns_of_register held.lawful held.sound hregistered)) hcontent hwrite

end

end Apake.Console
