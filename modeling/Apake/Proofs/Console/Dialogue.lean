import Apake.Console.Commands
import Apake.Proofs.Console.Markup

/-!
# What a dialogue depends on

Showing text and asking questions neither look at the disk and the entropy supply nor change them:
such a program stands aside from both.  So what a user is asked and answers is the same on every
disk, and a command changes the disk only where it saves a store.
-/

namespace Apake.Console

/-- The terminal with another disk and another supply. -/
def Terminal.over (t : Terminal) (disk : Disk) (entropy : Entropy) : Terminal :=
  { t with disk, entropy }

namespace Program

variable {α β : Type} {t t' : Terminal}

/-- A program that looks at the terminal goes on with what it sees. -/
theorem run_get_bind (f : Terminal → Program β) (t : Terminal) :
    (get >>= f).run.run t = (f t).run.run t := rfl

/-- Text is shown unless a text is stuck. -/
theorem run_print (text : String) (t : Terminal) :
    (print text).run.run t =
      if t.stuck then (.error (.failed .unencodableText), t)
      else (.ok (), { t with shown := t.shown ++ text }) := by
  unfold print
  rw [run_get_bind]
  split <;> rfl

/-- An answer is taken from those that are given, and the questions are kept. -/
theorem run_ask (q : Question) (t : Terminal) :
    (ask q).run.run t =
      let t' := { t with asked := t.asked ++ (q.pose t.answers).1 }
      match (q.pose t.answers).2 with
      | .answered answer rest => (.ok answer, { t' with answers := rest })
      | .interrupted _ => (.error .interrupted, t')
      | .waiting => (.error (.waiting (some q)), t') := by
  unfold ask
  rw [run_get_bind]
  rcases q.pose t.answers with ⟨asked, reaction⟩
  cases reaction <;> rfl

/-- A result is passed on without anything else being done. -/
theorem run_lift_eq_ok_iff {x : Except Error α} {a : α} :
    (lift x).run.run t = (.ok a, t') ↔ x = .ok a ∧ t' = t := by
  cases x with
  | ok b =>
    show (Except.ok b, t) = (Except.ok a, t') ↔ _
    simp [eq_comm]
  | error e =>
    unfold lift
    dsimp only
    refine ⟨fun h ↦ ?_, nofun⟩
    split at h <;> cases h

/-- A computation on the supply takes its result and changes nothing else. -/
theorem run_draw_eq_ok_iff {d : Draw α} {r : Except Error α} :
    (draw d).run.run t = (.ok r, t') ↔
      (d.runOn t.entropy).1 = r ∧ { t with entropy := (d.runOn t.entropy).2 } = t' := by
  show (Except.ok (d.runOn t.entropy).1, { t with entropy := (d.runOn t.entropy).2 }) =
    ((Except.ok r, t') : Except Stop (Except Error α) × Terminal) ↔ _
  rw [Prod.mk.injEq, Except.ok.injEq]

/-- A program that neither looks at the disk and the supply nor changes them, and under which nothing
gets stuck. -/
structure Aside (x : Program α) : Prop where
  run_over : ∀ t disk entropy,
    x.run.run (t.over disk entropy) = ((x.run.run t).1, (x.run.run t).2.over disk entropy)
  stuck : ∀ t, (x.run.run t).2.stuck = t.stuck

namespace Aside

/-- The disk and the supply stay. -/
theorem keeps {x : Program α} (hx : Aside x) (t : Terminal) :
    (x.run.run t).2.disk = t.disk ∧ (x.run.run t).2.entropy = t.entropy := by
  have hrun := congrArg Prod.snd (hx.run_over t t.disk t.entropy)
  have hsame : t.over t.disk t.entropy = t := rfl
  rw [hsame] at hrun
  dsimp only at hrun
  exact ⟨by rw [hrun]; rfl, by rw [hrun]; rfl⟩

theorem pure (a : α) : Aside (pure a) := ⟨fun _ _ _ ↦ rfl, fun _ ↦ rfl⟩

theorem throw (e : Stop) : Aside (throw e : Program α) := ⟨fun _ _ _ ↦ rfl, fun _ ↦ rfl⟩

/-- Two programs one after the other stand aside if both do. -/
theorem bind {x : Program α} {f : α → Program β} (hx : Aside x) (hf : ∀ a, Aside (f a)) :
    Aside (x >>= f) := by
  constructor
  · intro t disk entropy
    rw [ExceptT.run_run_bind, ExceptT.run_run_bind, hx.run_over]
    rcases x.run.run t with ⟨r, t'⟩
    cases r with
    | error e => rfl
    | ok a => exact (hf a).run_over t' disk entropy
  · intro t
    have hstuck := hx.stuck t
    rw [ExceptT.run_run_bind]
    revert hstuck
    rcases x.run.run t with ⟨r, t'⟩
    intro hstuck
    cases r with
    | error e => exact hstuck
    | ok a => exact ((hf a).stuck t').trans hstuck

/-- Programs for all elements of a list stand aside if each does. -/
theorem forM {f : α → Program Unit} (hf : ∀ a, Aside (f a)) : ∀ l : List α, Aside (l.forM f)
  | [] => pure ()
  | a :: l => (hf a).bind fun _ ↦ forM hf l

/-- Showing text as it is stands aside. -/
theorem print (text : String) : Aside (print text) := by
  constructor
  · intro t disk entropy
    rw [run_print, run_print]
    show (if t.stuck then _ else _) = _
    split <;> rfl
  · intro t
    rw [run_print]
    split <;> rfl

/-- Showing marked-up text stands aside. -/
theorem say (text : String) : Aside (say text) := by
  unfold Program.say
  split
  · exact print _
  · exact throw _

/-- Asking a question stands aside. -/
theorem ask (q : Question) : Aside (ask q) := by
  constructor
  · intro t disk entropy
    rw [run_ask, run_ask]
    simp only [Terminal.over]
    split <;> rfl
  · intro t
    rw [run_ask]
    dsimp only
    split <;> rfl

/-- Passing a result on stands aside. -/
theorem lift (x : Except Error α) : Aside (lift x) := by
  unfold Program.lift
  split
  · exact pure _
  · split
    · exact throw _
    · exact throw _

end Aside

end Program

open Program

section Asking

/-- Asking for a user stands aside. -/
theorem aside_askUser (user? : Option String) : Aside (askUser user?) := by
  unfold askUser
  split
  · exact (Aside.say _).bind fun _ ↦ (Aside.ask _).bind fun _ ↦ .pure _
  · exact (Aside.say _).bind fun _ ↦ (Aside.ask _).bind fun _ ↦ .pure _
  · exact .pure _

/-- Asking for a password stands aside. -/
theorem aside_askPassword (confirm : Bool) (password? : Option String) :
    Aside (askPassword confirm password?) := by
  have hasked : Aside (do
      say "\n[cyan]Password[/cyan]"
      let password ← ask passwordQuestion
      if confirm then
        let again ← ask confirmQuestion
        if again ≠ password then throw .mismatch
      return password) := by
    refine (Aside.say _).bind fun _ ↦ (Aside.ask _).bind fun password ↦ ?_
    split
    · refine (Aside.ask _).bind fun again ↦ ?_
      split
      · exact (Aside.throw _).bind fun _ ↦ .pure _
      · exact .pure _
    · exact .pure _
  unfold askPassword
  split
  · exact hasked
  · exact hasked
  · exact .pure _

/-- Asks for a user and a password. -/
def credentials (confirm : Bool) (o : AccountOptions) : Program (String × String) := do
  let user ← askUser o.user
  let password ← askPassword confirm o.password
  return (user, password)

/-- Asking for a user and a password stands aside. -/
theorem aside_credentials (confirm : Bool) (o : AccountOptions) :
    Aside (credentials confirm o) :=
  (aside_askUser _).bind fun _ ↦ (aside_askPassword _ _).bind fun _ ↦ .pure _

end Asking

section Showing

variable {t t' : Terminal}

/-- Whether all lines of marked-up text can be shown. -/
def CanBeShown (lines : List String) : Prop := ∀ line ∈ lines, ∃ cs, Markup.plain line = .ok cs

/-- Lines that were shown can be. -/
theorem canBeShown_of_run {lines : List String} (h : (lines.forM say).run.run t = (.ok (), t')) :
    CanBeShown lines := by
  induction lines generalizing t with
  | nil => exact List.forall_mem_nil _
  | cons line lines ih =>
    obtain ⟨_, t₁, hline, hlines⟩ := ExceptT.run_run_bind_eq_ok_iff.mp h
    refine List.forall_mem_cons.mpr ⟨?_, ih hlines⟩
    unfold say at hline
    split at hline
    · next cs hcs => exact ⟨cs, hcs⟩
    · cases hline

/-- Lines that can be shown are, unless a text is stuck. -/
theorem exists_run_of_canBeShown {lines : List String} (hstuck : t.stuck = false)
    (h : CanBeShown lines) : ∃ t', (lines.forM say).run.run t = (.ok (), t') := by
  induction lines generalizing t with
  | nil => exact ⟨t, rfl⟩
  | cons line lines ih =>
    obtain ⟨⟨cs, hcs⟩, hlines⟩ := List.forall_mem_cons.mp h
    obtain ⟨t₁, hline⟩ : ∃ t₁, (say line).run.run t = (.ok (), t₁) := by
      unfold say printLines
      rw [hcs]
      dsimp only
      rw [run_print, hstuck]
      exact ⟨_, rfl⟩
    have hkept := (Aside.say line).stuck t
    rw [hline] at hkept
    obtain ⟨t', hrest⟩ := ih (hkept.trans hstuck) hlines
    exact ⟨t', ExceptT.run_run_bind_eq_ok_iff.mpr ⟨(), t₁, hline, hrest⟩⟩

end Showing

end Apake.Console
