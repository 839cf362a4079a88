import Apake.Proofs.Console.Dialogue
import Apake.Proofs.Console.Disk
import Apake.Proofs.Store.Accounts

/-!
# What a command does to the disk

A command that stops before it saves a store leaves the disk as it was; the others end in one write
of the file and report only if it was written.  Telling how a command ended does not touch the disk.
-/

namespace Apake.Console

open Program

variable {α β : Type} {t t' : Terminal} {p : Path}

/-- Whether a program leaves the disk as it is. -/
def KeepsDisk (x : Program α) : Prop := ∀ t, (x.run.run t).2.disk = t.disk

/-- What comes after a program does not touch the disk that it leaves behind. -/
theorem disk_bind (x : Program α) {f : α → Program β} (hf : ∀ a, KeepsDisk (f a)) (t : Terminal) :
    ((x >>= f).run.run t).2.disk = (x.run.run t).2.disk := by
  rw [ExceptT.run_run_bind]
  rcases x.run.run t with ⟨r, t'⟩
  cases r with
  | error e => rfl
  | ok a => exact hf a t'

/-- Handling a stop does not touch the disk that the program leaves behind. -/
theorem disk_tryCatch (x : Program α) {f : Stop → Program α} (hf : ∀ e, KeepsDisk (f e))
    (t : Terminal) : ((tryCatch x f).run.run t).2.disk = (x.run.run t).2.disk := by
  rw [ExceptT.run_run_tryCatch]
  rcases x.run.run t with ⟨r, t'⟩
  cases r with
  | error e => exact hf e t'
  | ok a => rfl

namespace KeepsDisk

theorem of_aside {x : Program α} (hx : Aside x) : KeepsDisk x := fun t ↦ (hx.keeps t).1

/-- Drawing uses up the supply alone. -/
theorem draw (d : Draw α) : KeepsDisk (draw d) := fun _ ↦ rfl

/-- Two programs one after the other leave the disk as it is if both do. -/
theorem bind {x : Program α} {f : α → Program β} (hx : KeepsDisk x) (hf : ∀ a, KeepsDisk (f a)) :
    KeepsDisk (x >>= f) := fun t ↦ (disk_bind x hf t).trans (hx t)

/-- Telling of a refusal leaves the disk as it is. -/
theorem sayUnits (text : Units) : KeepsDisk (sayUnits text) := by
  unfold Program.sayUnits
  split
  · exact bind (fun _ ↦ rfl) fun _ ↦ of_aside (.say _)
  · exact of_aside (.say _)

end KeepsDisk

/-- From a terminal, a program stops with the disk as it was, or the last thing that it does before
it reports is to write the file of a path with a content of which a property holds. -/
def EndsInSave (p : Path) (t : Terminal) (x : Program Report) (P : Bytes → Report → Prop) : Prop :=
  ((x.run.run t).2.disk = t.disk ∧ ∀ r, (x.run.run t).1 ≠ .ok r) ∨
    ∃ content report, P content report ∧
      (x.run.run t).2.disk = ((Disk.write p content).run.run t.disk).2 ∧
      ∀ r, (x.run.run t).1 = .ok r →
        r = report ∧ ((Disk.write p content).run.run t.disk).1 = .ok ()

namespace EndsInSave

variable {P : Bytes → Report → Prop}

/-- A program that stops saves nothing. -/
theorem throw (e : Stop) : EndsInSave p t (throw e) P := .inl ⟨rfl, nofun⟩

/-- A step that leaves the disk as it is hands what it tells to the steps before the save. -/
theorem bind {x : Program α} {f : α → Program Report} (hx : KeepsDisk x)
    (hf : ∀ a t', x.run.run t = (.ok a, t') → EndsInSave p t' (f a) P) :
    EndsInSave p t (x >>= f) P := by
  have hdisk := hx t
  unfold EndsInSave
  rw [ExceptT.run_run_bind]
  revert hdisk hf
  rcases x.run.run t with ⟨r, t'⟩
  intro hf hdisk
  cases r with
  | error e => exact .inl ⟨hdisk, nofun⟩
  | ok a =>
    have hdisk : t'.disk = t.disk := hdisk
    rw [← hdisk]
    exact hf a t' rfl

/-- A save with a report behind it. -/
theorem save {content : Bytes} {report : Report} (h : P content report) :
    EndsInSave p t (save p content >>= fun _ ↦ pure report) P := by
  refine .inr ⟨content, report, h, ?_⟩
  have hsave : (Console.save p content).run.run t =
      (lift ((Disk.write p content).run.run t.disk).1).run.run
        { t with disk := ((Disk.write p content).run.run t.disk).2 } := rfl
  have hdisk := ((Aside.lift ((Disk.write p content).run.run t.disk).1).keeps
    { t with disk := ((Disk.write p content).run.run t.disk).2 }).1
  rw [ExceptT.run_run_bind, hsave]
  revert hdisk
  rcases hlift : (lift ((Disk.write p content).run.run t.disk).1).run.run _ with ⟨r, t'⟩
  intro hdisk
  cases r with
  | error e => exact ⟨hdisk, nofun⟩
  | ok =>
    refine ⟨hdisk, fun r hr ↦ ?_⟩
    cases hr
    exact ⟨rfl, (run_lift_eq_ok_iff.mp hlift).1⟩

end EndsInSave

variable [Groups]

/-- Does a command and shows its report. -/
def reported (c : Command) : Program Report := do
  let report ← perform c
  report.lines.forM say
  return report

/-- How a command ends is told without touching the disk. -/
theorem disk_conclude (c : Command) (t : Terminal) :
    ((conclude c).run.run t).2.disk = ((perform c).run.run t).2.disk := by
  unfold conclude
  rw [disk_tryCatch, disk_bind]
  · intro report
    exact .of_aside ((Aside.forM Aside.say _).bind fun _ ↦ .pure _)
  · intro stop
    split
    · exact (KeepsDisk.sayUnits _).bind fun _ ↦ .of_aside (.pure _)
    · exact .of_aside ((Aside.print _).bind fun _ ↦ .pure _)
    · exact .of_aside ((Aside.say _).bind fun _ ↦ .pure _)
    · exact .of_aside ((Aside.print _).bind fun _ ↦ .pure _)
    · exact .of_aside (.throw _)

/-- A command whose report was shown ends with code zero. -/
theorem conclude_of_reported {c : Command} {r : Report}
    (h : (reported c).run.run t = (.ok r, t')) : (conclude c).run.run t = (.ok 0, t') := by
  obtain ⟨report, t₁, hperform, h⟩ := ExceptT.run_run_bind_eq_ok_iff.mp h
  obtain ⟨_, t₂, hshown, h⟩ := ExceptT.run_run_bind_eq_ok_iff.mp h
  cases h
  unfold conclude
  rw [ExceptT.run_run_tryCatch, ExceptT.run_run_bind, hperform]
  dsimp only
  rw [ExceptT.run_run_bind, hshown]
  rfl

/-- A report that was shown is that of the command, and its lines can be shown. -/
theorem perform_of_reported {c : Command} {r : Report}
    (h : (reported c).run.run t = (.ok r, t')) :
    ((perform c).run.run t).1 = .ok r ∧ CanBeShown r.lines := by
  obtain ⟨report, t₁, hperform, h⟩ := ExceptT.run_run_bind_eq_ok_iff.mp h
  obtain ⟨_, t₂, hshown, h⟩ := ExceptT.run_run_bind_eq_ok_iff.mp h
  cases h
  exact ⟨by rw [hperform], canBeShown_of_run hshown⟩

/-- The report of a command is shown if its lines can be, unless a text is stuck. -/
theorem exists_reported {c : Command} {r : Report} (h : (perform c).run.run t = (.ok r, t'))
    (hstuck : t'.stuck = false) (hlines : CanBeShown r.lines) :
    ∃ t'', (reported c).run.run t = (.ok r, t'') := by
  obtain ⟨t'', hshown⟩ := exists_run_of_canBeShown hstuck hlines
  exact ⟨t'', ExceptT.run_run_bind_eq_ok_iff.mpr ⟨r, t', h,
    ExceptT.run_run_bind_eq_ok_iff.mpr ⟨(), t'', hshown, rfl⟩⟩⟩

/-- The store in the file that a path leads to. -/
def loadStore (d : Disk) (p : Path) : Except Error RecordStore := do
  RecordStore.ofFile p.shown (← d.read p)

/-- Opening a store loads it and does nothing else. -/
theorem run_openStore_eq_ok_iff {store : RecordStore} :
    (openStore p).run.run t = (.ok store, t') ↔ loadStore t.disk p = .ok store ∧ t' = t := by
  unfold openStore
  rw [run_get_bind, ExceptT.run_run_bind_eq_ok_iff]
  simp only [run_lift_eq_ok_iff]
  unfold loadStore
  rw [Except.bind_eq_ok_iff]
  constructor
  · rintro ⟨content, t₁, ⟨hread, rfl⟩, hfile, rfl⟩
    exact ⟨⟨content, hread, hfile⟩, rfl⟩
  · rintro ⟨⟨content, hread, hfile⟩, rfl⟩
    exact ⟨content, _, ⟨hread, rfl⟩, hfile, rfl⟩

/-- Opening a store leaves the disk as it is. -/
theorem keepsDisk_openStore (p : Path) : KeepsDisk (openStore p) := by
  intro t
  unfold openStore
  rw [run_get_bind]
  exact (Aside.keeps ((Aside.lift _).bind fun _ ↦ .lift _) t).1

/-- A setup that does not replace a store ends in a save only where there is none. -/
theorem setup_endsInSave {o : SetupOptions} (hforce : o.force = false) (t : Terminal) :
    EndsInSave p t (setup p o) fun content report ↦
      t.disk.contains p = .ok false ∧ ∃ f store e,
        Stretching.ofName (Units.ofString o.function) o.settings = .ok f ∧
          ((RecordStore.create p.shown ⟨o.suite, f⟩).runOn e).1 = .ok (store, content) ∧
            report = .created p.shown ⟨o.suite, f⟩ store.setup.publicKey := by
  unfold setup
  refine .bind (.of_aside (.lift _)) fun f t₁ hlift ↦ ?_
  obtain ⟨hf, rfl⟩ := run_lift_eq_ok_iff.mp hlift
  refine .bind (fun _ ↦ rfl) fun t₂ t₂' ht ↦ ?_
  cases ht
  refine .bind (.of_aside (.lift _)) fun isThere t₃ hlift ↦ ?_
  obtain ⟨hthere, rfl⟩ := run_lift_eq_ok_iff.mp hlift
  split
  · exact .throw _
  · next hfree =>
    rw [hforce, Bool.not_false, Bool.and_true, Bool.not_eq_true] at hfree
    rw [hfree] at hthere
    refine .bind (.draw _) fun x t₄ hdraw ↦ ?_
    obtain ⟨hx, rfl⟩ := run_draw_eq_ok_iff.mp hdraw
    refine .bind (.of_aside (.lift _)) fun (store, content) t₅ hlift ↦ ?_
    obtain ⟨hcreated, rfl⟩ := run_lift_eq_ok_iff.mp hlift
    rw [← hx] at hcreated
    exact .save ⟨hthere, f, store, _, hf, hcreated, rfl⟩

/-- A record and an export key that come of a registration for an account that is new in a store. -/
structure Registers (store : RecordStore) (user password : String) (record : Record)
    (exportKey : Bytes) : Prop where
  fresh : store.get? (Units.ofString user) = none
  run : ∃ e, ((store.register (Units.ofString user) (Bytes.ofString password)).runOn e).1 =
    .ok (record, exportKey)

/-- A registration that does not replace a record ends in a save only for an account that is new in
the store. -/
theorem register_endsInSave {o : AccountOptions} (hforce : o.force = false) (t : Terminal) :
    EndsInSave p t (register p o) fun content report ↦
      ∃ store user password record exportKey t',
        loadStore t.disk p = .ok store ∧
          (credentials true o).run.run t = (.ok (user, password), t') ∧
          Registers store user password record exportKey ∧
          (store.put (Units.ofString user) record).1 = .ok content ∧
          report = .registered user exportKey := by
  unfold register
  refine .bind (keepsDisk_openStore p) fun store t₁ hopen ↦ ?_
  obtain ⟨hload, rfl⟩ := run_openStore_eq_ok_iff.mp hopen
  refine .bind (.of_aside (aside_askUser _)) fun user t₂ huser ↦ ?_
  dsimp only
  split
  · exact .throw _
  · next hfree =>
    rw [hforce, Bool.not_false, Bool.and_true, Bool.not_eq_true, Option.isSome_eq_false_iff,
      Option.isNone_iff_eq_none] at hfree
    refine .bind (.of_aside (aside_askPassword _ _)) fun password t₃ hpassword ↦ ?_
    have hasked : (credentials true o).run.run t₁ = (.ok (user, password), t₃) :=
      ExceptT.run_run_bind_eq_ok_iff.mpr ⟨user, t₂, huser,
        ExceptT.run_run_bind_eq_ok_iff.mpr ⟨password, t₃, hpassword, rfl⟩⟩
    refine .bind (.draw _) fun x t₄ hdraw ↦ ?_
    obtain ⟨hx, rfl⟩ := run_draw_eq_ok_iff.mp hdraw
    refine .bind (.of_aside (.lift _)) fun (record, exportKey) t₅ hlift ↦ ?_
    obtain ⟨hregistered, rfl⟩ := run_lift_eq_ok_iff.mp hlift
    rw [← hx] at hregistered
    refine .bind (.of_aside (.lift _)) fun content t₆ hlift ↦ ?_
    obtain ⟨hcontent, rfl⟩ := run_lift_eq_ok_iff.mp hlift
    exact .save ⟨store, user, password, record, exportKey, t₃, hload, hasked,
      ⟨hfree, _, hregistered⟩, hcontent, rfl⟩

/-- A login leaves the disk as it is. -/
theorem keepsDisk_login (p : Path) (o : AccountOptions) : KeepsDisk (login p o) := by
  unfold login
  refine (keepsDisk_openStore p).bind fun store ↦ ?_
  refine (KeepsDisk.of_aside (aside_askUser _)).bind fun user ↦ ?_
  refine (KeepsDisk.of_aside (aside_askPassword _ _)).bind fun password ↦ ?_
  refine (KeepsDisk.draw _).bind fun r ↦ ?_
  split
  · exact .of_aside (.pure _)
  · split
    · exact .of_aside (.throw _)
    · exact .of_aside (.lift _)

/-- What a login reports is a login. -/
theorem report_of_login {o : AccountOptions} {r : Report}
    (h : ((login p o).run.run t).1 = .ok r) :
    ∃ user clientKey serverKey exportKey, r = .loggedIn user clientKey serverKey exportKey := by
  have hrun : (login p o).run.run t = (.ok r, _) := Prod.ext h rfl
  obtain ⟨store, t₁, -, hrun⟩ := ExceptT.run_run_bind_eq_ok_iff.mp hrun
  obtain ⟨user, t₂, -, hrun⟩ := ExceptT.run_run_bind_eq_ok_iff.mp hrun
  obtain ⟨password, t₃, -, hrun⟩ := ExceptT.run_run_bind_eq_ok_iff.mp hrun
  obtain ⟨outcome, t₄, -, hrun⟩ := ExceptT.run_run_bind_eq_ok_iff.mp hrun
  split at hrun
  · cases hrun
    exact ⟨_, _, _, _, rfl⟩
  · split at hrun
    · cases hrun
    · cases (run_lift_eq_ok_iff.mp hrun).1

/-- A login whose run has a result reports it. -/
theorem run_login {o : AccountOptions} {store : RecordStore} {user password : String}
    {session : RecordStore.Session} (hload : loadStore t.disk p = .ok store)
    (hasked : (credentials false o).run.run t = (.ok (user, password), t'))
    (hsession : ((store.login (Units.ofString user) (Bytes.ofString password)).runOn
      t.entropy).1 = .ok session) :
    ∃ t'', (login p o).run.run t = (.ok (.loggedIn user session.client.sessionKey
      session.serverKey session.client.exportKey), t'') ∧ t''.stuck = t.stuck := by
  have hkeeps := (aside_credentials false o).keeps t
  have hstuck := (aside_credentials false o).stuck t
  rw [hasked] at hkeeps hstuck
  obtain ⟨user', t₁, huser, hasked⟩ := ExceptT.run_run_bind_eq_ok_iff.mp hasked
  obtain ⟨password', t₂, hpassword, hasked⟩ := ExceptT.run_run_bind_eq_ok_iff.mp hasked
  cases hasked
  rw [← hkeeps.2] at hsession
  obtain ⟨e, hdraw⟩ : ∃ e, (draw (store.login (Units.ofString user)
      (Bytes.ofString password))).run.run t' = (.ok (.ok session), { t' with entropy := e }) :=
    ⟨_, run_draw_eq_ok_iff.mpr ⟨hsession, rfl⟩⟩
  exact ⟨{ t' with entropy := e }, ExceptT.run_run_bind_eq_ok_iff.mpr ⟨store, t,
    run_openStore_eq_ok_iff.mpr ⟨hload, rfl⟩,
    ExceptT.run_run_bind_eq_ok_iff.mpr ⟨user, t₁, huser,
      ExceptT.run_run_bind_eq_ok_iff.mpr ⟨password, t', hpassword,
        ExceptT.run_run_bind_eq_ok_iff.mpr ⟨_, _, hdraw, rfl⟩⟩⟩⟩, hstuck⟩

omit [Groups] in
/-- A save that can be written is. -/
theorem run_save {content : Bytes} {disk : Disk}
    (h : (Disk.write p content).run.run t.disk = (.ok (), disk)) :
    (save p content).run.run t = (.ok (), { t with disk }) := by
  show (lift ((Disk.write p content).run.run t.disk).1).run.run
    { t with disk := ((Disk.write p content).run.run t.disk).2 } = _
  rw [h]
  rfl

/-- A setup where there is nothing reports the store that it creates, if that can be written. -/
theorem run_setup {o : SetupOptions} {f : Stretching} {store : RecordStore} {content : Bytes}
    {disk : Disk} (hf : Stretching.ofName (Units.ofString o.function) o.settings = .ok f)
    (hfree : t.disk.contains p = .ok false)
    (hcreated : ((RecordStore.create p.shown ⟨o.suite, f⟩).runOn t.entropy).1 =
      .ok (store, content))
    (hwrite : (Disk.write p content).run.run t.disk = (.ok (), disk)) :
    ∃ t', (setup p o).run.run t =
        (.ok (.created p.shown ⟨o.suite, f⟩ store.setup.publicKey), t') ∧
      t'.disk = disk ∧ t'.stuck = t.stuck := by
  refine ⟨_, ExceptT.run_run_bind_eq_ok_iff.mpr ⟨f, t, run_lift_eq_ok_iff.mpr ⟨hf, rfl⟩,
    ExceptT.run_run_bind_eq_ok_iff.mpr ⟨t, t, rfl,
      ExceptT.run_run_bind_eq_ok_iff.mpr ⟨false, t, run_lift_eq_ok_iff.mpr ⟨hfree, rfl⟩,
        ExceptT.run_run_bind_eq_ok_iff.mpr ⟨.ok (store, content), _,
          run_draw_eq_ok_iff.mpr ⟨hcreated, rfl⟩,
          ExceptT.run_run_bind_eq_ok_iff.mpr ⟨(store, content), _, rfl,
            ExceptT.run_run_bind_eq_ok_iff.mpr ⟨(), _, run_save hwrite, rfl⟩⟩⟩⟩⟩⟩, rfl, rfl⟩

/-- A registration of an account that is new in a store reports the export key, if the record can be
written. -/
theorem run_register {o : AccountOptions} {store : RecordStore} {user password : String}
    {record : Record} {exportKey content : Bytes} {disk : Disk}
    (hload : loadStore t.disk p = .ok store)
    (hasked : (credentials true o).run.run t = (.ok (user, password), t'))
    (hfresh : store.get? (Units.ofString user) = none)
    (hregistered : ((store.register (Units.ofString user) (Bytes.ofString password)).runOn
      t.entropy).1 = .ok (record, exportKey))
    (hput : (store.put (Units.ofString user) record).1 = .ok content)
    (hwrite : (Disk.write p content).run.run t.disk = (.ok (), disk)) :
    ∃ t'', (register p o).run.run t = (.ok (.registered user exportKey), t'') ∧ t''.disk = disk ∧
      t''.stuck = t.stuck := by
  have hkeeps := (aside_credentials true o).keeps t
  have hstuck := (aside_credentials true o).stuck t
  rw [hasked] at hkeeps hstuck
  obtain ⟨user', t₁, huser, hasked⟩ := ExceptT.run_run_bind_eq_ok_iff.mp hasked
  obtain ⟨password', t₂, hpassword, hasked⟩ := ExceptT.run_run_bind_eq_ok_iff.mp hasked
  cases hasked
  rw [← hkeeps.2] at hregistered
  rw [← hkeeps.1] at hwrite
  obtain ⟨e, hdraw⟩ : ∃ e, (draw (store.register (Units.ofString user)
      (Bytes.ofString password))).run.run t' =
        (.ok (.ok (record, exportKey)), { t' with entropy := e }) :=
    ⟨_, run_draw_eq_ok_iff.mpr ⟨hregistered, rfl⟩⟩
  have hrun : (register p o).run.run t =
      (.ok (.registered user exportKey), { t' with entropy := e, disk := disk }) := by
    refine ExceptT.run_run_bind_eq_ok_iff.mpr ⟨store, t,
      run_openStore_eq_ok_iff.mpr ⟨hload, rfl⟩,
      ExceptT.run_run_bind_eq_ok_iff.mpr ⟨user, t₁, huser, ?_⟩⟩
    dsimp only
    rw [hfresh, Option.isSome_none, Bool.false_and, if_neg Bool.false_ne_true]
    exact ExceptT.run_run_bind_eq_ok_iff.mpr ⟨password, t', hpassword,
      ExceptT.run_run_bind_eq_ok_iff.mpr ⟨_, _, hdraw,
        ExceptT.run_run_bind_eq_ok_iff.mpr ⟨(record, exportKey), _, rfl,
          ExceptT.run_run_bind_eq_ok_iff.mpr ⟨content, _, run_lift_eq_ok_iff.mpr ⟨hput, rfl⟩,
            ExceptT.run_run_bind_eq_ok_iff.mpr ⟨(), _, run_save hwrite, rfl⟩⟩⟩⟩⟩
  exact ⟨_, hrun, rfl, hstuck⟩

end Apake.Console
