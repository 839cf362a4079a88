import Apake.Random

/-!
# Running computations on an entropy supply

A computation that draws is run on a supply and leaves one behind.  The equations below say how each
way to build a computation runs.  `Serves` is the promise that a computation gives to its caller
whatever the source answers: a result with a stated property, or a failure that is the source's, or
draws without end.
-/

namespace Apake

section State

variable {ε σ α β : Type}

/-- The second of two computations starts from the state that the first one leaves behind. -/
theorem ExceptT.run_run_bind (x : ExceptT ε (StateM σ) α) (f : α → ExceptT ε (StateM σ) β)
    (s : σ) :
    (x >>= f).run.run s =
      match x.run.run s with
      | (.ok a, s') => (f a).run.run s'
      | (.error e, s') => (.error e, s') := by
  change (ExceptT.bindCont f (x.run.run s).1).run (x.run.run s).2 = _
  rcases x.run.run s with ⟨r, s'⟩
  cases r <;> rfl

/-- Of two computations, the second has a result exactly from what the first one leaves behind. -/
theorem ExceptT.run_run_bind_eq_ok_iff {x : ExceptT ε (StateM σ) α}
    {f : α → ExceptT ε (StateM σ) β} {s s'' : σ} {b : β} :
    (x >>= f).run.run s = (.ok b, s'') ↔
      ∃ a s', x.run.run s = (.ok a, s') ∧ (f a).run.run s' = (.ok b, s'') := by
  rw [ExceptT.run_run_bind]
  rcases x.run.run s with ⟨r, s'⟩
  cases r with
  | error e => exact ⟨nofun, fun ⟨_, _, hx, _⟩ ↦ by cases hx⟩
  | ok a =>
    refine ⟨fun h ↦ ⟨a, s', rfl, h⟩, ?_⟩
    rintro ⟨_, _, hx, h⟩
    cases hx
    exact h

/-- A computation that fails goes on where its failure is handled, from the state that it leaves
behind. -/
theorem ExceptT.run_run_tryCatch (x : ExceptT ε (StateM σ) α)
    (f : ε → ExceptT ε (StateM σ) α) (s : σ) :
    (tryCatch x f).run.run s =
      match x.run.run s with
      | (.ok a, s') => (.ok a, s')
      | (.error e, s') => (f e).run.run s' := by
  change (match (x.run.run s).1 with | .ok a => _ | .error e => (f e).run).run (x.run.run s).2 = _
  rcases x.run.run s with ⟨r, s'⟩
  cases r <;> rfl

end State

variable {α β : Type}

/-- A chain of two steps has a result exactly if both steps have one. -/
theorem Except.bind_eq_ok_iff {ε : Type} {x : Except ε α} {f : α → Except ε β} {b : β} :
    (x >>= f) = .ok b ↔ ∃ a, x = .ok a ∧ f a = .ok b := by
  cases x with
  | error e => simp [bind, Except.bind]
  | ok a => simp [bind, Except.bind]

/-- A chain of two steps fails exactly if its first step does, or has a result on which the second
one fails. -/
theorem Except.bind_eq_error_iff {ε : Type} {x : Except ε α} {f : α → Except ε β} {err : ε} :
    (x >>= f) = .error err ↔ x = .error err ∨ ∃ a, x = .ok a ∧ f a = .error err := by
  cases x with
  | error e => simp [bind, Except.bind]
  | ok a => simp [bind, Except.bind]

/-- A result that is handed on fails exactly if there is none. -/
theorem Except.map_eq_error_iff {ε : Type} {f : α → β} {x : Except ε α} {err : ε} :
    f <$> x = .error err ↔ x = .error err := by
  cases x <;> simp [Functor.map, Except.map]

/-- A step that has a result hands it to the next step. -/
theorem Except.bind_of_ok {ε : Type} {x : Except ε α} {f : α → Except ε β} {a : α}
    {r : Except ε β} (hx : x = .ok a) (h : f a = r) : (x >>= f) = r := by
  rw [hx]
  exact h

/-- A step that fails is all there is of a chain. -/
theorem Except.bind_of_error {ε : Type} {x : Except ε α} {f : α → Except ε β} {err : ε}
    (hx : x = .error err) : (x >>= f) = .error err := by
  rw [hx]
  rfl

/-- Chains are equal if their first steps are and they go on alike from every result. -/
theorem Except.bind_eq_bind {ε : Type} {x y : Except ε α} {f g : α → Except ε β} (hxy : x = y)
    (h : ∀ a, y = .ok a → f a = g a) : (x >>= f) = (y >>= g) := by
  subst hxy
  cases x with
  | error e => rfl
  | ok a => exact h a rfl

/-- A result that is found to pass a test is there. -/
theorem Except.exists_of_any {ε : Type} {x : Except ε α} {p : α → Bool}
    (h : x.toOption.any p = true) : ∃ a, x = .ok a ∧ p a = true := by
  cases x with
  | error e => cases h
  | ok a => exact ⟨a, rfl, h⟩

/-- A chain that refuses on a condition has a result exactly if it goes on and has one. -/
theorem Except.refuseIf_eq_ok_iff {ε : Type} {p : Prop} [Decidable p] {e : ε}
    {f : Unit → Except ε β} {b : β} :
    (if p then (throw e : Except ε Unit) >>= f else f ()) = .ok b ↔ ¬ p ∧ f () = .ok b := by
  split
  · next h => simp [h, throw, throwThe, MonadExceptOf.throw, bind, Except.bind]
  · next h => simp [h]

/-- A chain that refuses on a condition fails exactly if it does so, or goes on and fails. -/
theorem Except.refuseIf_eq_error_iff {ε : Type} {p : Prop} [Decidable p] {e err : ε}
    {f : Unit → Except ε β} :
    (if p then (throw e : Except ε Unit) >>= f else f ()) = .error err ↔
      (p ∧ e = err) ∨ (¬ p ∧ f () = .error err) := by
  split
  · next h => simp [h, throw, throwThe, MonadExceptOf.throw, bind, Except.bind]
  · next h => simp [h]

namespace Draw

/-- A failure leaves the supply as it is. -/
theorem runOn_throw (err : Error) (e : Entropy) :
    (throw err : Draw α).runOn e = (.error err, e) := rfl

/-- A step without draws leaves the supply as it is. -/
theorem runOn_lift (x : Except Error α) (e : Entropy) : (liftM x : Draw α).runOn e = (x, e) := by
  cases x <;> rfl

/-- The second of two computations runs on what the first leaves behind. -/
theorem runOn_bind (d : Draw α) (f : α → Draw β) (e : Entropy) :
    (d >>= f).runOn e =
      match d.runOn e with
      | (.ok a, e') => (f a).runOn e'
      | (.error err, e') => (.error err, e') := by
  rw [runOn, ExceptT.run_run_bind]
  unfold runOn
  rcases d.run.run e with ⟨r, e'⟩
  cases r <;> rfl

/-- The outcome of two computations is that of the second on the result of the first. -/
theorem fst_runOn_bind (d : Draw α) (f : α → Draw β) (e : Entropy) :
    ((d >>= f).runOn e).1 = ((d.runOn e).1 >>= fun a ↦ ((f a).runOn (d.runOn e).2).1) := by
  rw [runOn_bind]
  rcases d.runOn e with ⟨r, e'⟩
  cases r <;> rfl

/-- The outcome of a computation behind a step without draws is its outcome on the same supply. -/
theorem fst_runOn_lift_bind (x : Except Error α) (f : α → Draw β) (e : Entropy) :
    (((liftM x : Draw α) >>= f).runOn e).1 = (x >>= fun a ↦ ((f a).runOn e).1) := by
  rw [fst_runOn_bind, runOn_lift]

/-- A result comes with the supply that is left behind. -/
theorem runOn_of_fst {d : Draw α} {e : Entropy} {r : Except Error α} (h : (d.runOn e).1 = r) :
    d.runOn e = (r, (d.runOn e).2) := by
  rw [← h]

/-- Two computations have a result exactly if both have one. -/
theorem runOn_bind_eq_ok_iff {d : Draw α} {f : α → Draw β} {e e'' : Entropy} {b : β} :
    (d >>= f).runOn e = (.ok b, e'') ↔
      ∃ a e', d.runOn e = (.ok a, e') ∧ (f a).runOn e' = (.ok b, e'') :=
  ExceptT.run_run_bind_eq_ok_iff

/-- A computation that has a result hands it to the next one, with the supply it leaves behind. -/
theorem runOn_bind_of_ok {d : Draw α} {f : α → Draw β} {e e' : Entropy} {a : α}
    {r : Except Error β × Entropy} (hd : d.runOn e = (.ok a, e')) (h : (f a).runOn e' = r) :
    (d >>= f).runOn e = r := by
  rw [runOn_bind, hd]
  exact h

/-- A computation that fails is all there is of a chain. -/
theorem runOn_bind_of_error {d : Draw α} {f : α → Draw β} {e e' : Entropy} {err : Error}
    (hd : d.runOn e = (.error err, e')) : (d >>= f).runOn e = (.error err, e') := by
  rw [runOn_bind, hd]

/-- A step without draws that has a result hands it to the next computation. -/
theorem runOn_lift_bind_of_ok {x : Except Error α} {f : α → Draw β} {e : Entropy} {a : α}
    {r : Except Error β × Entropy} (hx : x = .ok a) (h : (f a).runOn e = r) :
    ((liftM x : Draw α) >>= f).runOn e = r :=
  runOn_bind_of_ok (by rw [runOn_lift, hx]) h

/-- A step without draws that fails is all there is of a chain. -/
theorem runOn_lift_bind_of_error {x : Except Error α} {f : α → Draw β} {e : Entropy} {err : Error}
    (hx : x = .error err) : ((liftM x : Draw α) >>= f).runOn e = (.error err, e) :=
  runOn_bind_of_error (by rw [runOn_lift, hx])

/-- A computation that refuses on a condition has a result exactly if it goes on and has one. -/
theorem runOn_refuseIf_eq_ok_iff {p : Prop} [Decidable p] {err : Error} {f : Unit → Draw β}
    {e e' : Entropy} {b : β} :
    (if p then (throw err : Draw Unit) >>= f else f ()).runOn e = (.ok b, e') ↔
      ¬ p ∧ (f ()).runOn e = (.ok b, e') := by
  split
  · next h =>
    rw [runOn_bind, runOn_throw]
    simp [h]
  · next h => simp [h]

/-- A step without draws in front passes its result on and keeps the supply. -/
theorem runOn_lift_bind_eq_ok_iff {x : Except Error α} {f : α → Draw β} {e e'' : Entropy} {b : β} :
    ((liftM x : Draw α) >>= f).runOn e = (.ok b, e'') ↔
      ∃ a, x = .ok a ∧ (f a).runOn e = (.ok b, e'') := by
  rw [runOn_bind_eq_ok_iff]
  simp only [runOn_lift, Prod.mk.injEq]
  constructor
  · rintro ⟨a, e', ⟨hx, rfl⟩, h⟩
    exact ⟨a, hx, h⟩
  · rintro ⟨a, hx, h⟩
    exact ⟨a, e, ⟨hx, rfl⟩, h⟩

end Draw

/-- Which sources a promise is about, and which failures it leaves to them. -/
structure Trust where
  admits : Source → Prop
  excuses : Error → Prop

/-- Every source, with the failures that a source is to blame for; where there is a search, it may
also keep that going for ever. -/
def Trust.anySource (searches : Prop) : Trust :=
  ⟨fun _ ↦ True, fun e ↦ e.family = .randomness ∨ (e = .endless ∧ searches)⟩

/-- A result with a property, or an excused failure. -/
def Served (t : Trust) (P : α → Prop) : Except Error α → Prop
  | .ok a => P a
  | .error e => t.excuses e

namespace Served

variable {t : Trust} {P : α → Prop} {Q : β → Prop}

/-- A step with a promise hands what it promises to the next step. -/
theorem bind {x : Except Error α} {f : α → Except Error β} (hx : Served t P x)
    (hf : ∀ a, P a → Served t Q (f a)) : Served t Q (x >>= f) := by
  cases x with
  | error err => exact hx
  | ok a => exact hf a hx

/-- A step that has a result hands it to the next step. -/
theorem ok_bind {x : Except Error α} {f : α → Except Error β} {a : α} (hx : x = .ok a)
    (hf : Served t Q (f a)) : Served t Q (x >>= f) := by
  rw [hx]
  exact hf

/-- A promise of a result may be weakened. -/
theorem mono {P' : α → Prop} {x : Except Error α} (hx : Served t P x) (h : ∀ a, P a → P' a) :
    Served t P' x := by
  cases x with
  | error err => exact hx
  | ok a => exact h a hx

/-- More failures may be excused. -/
theorem relax {t' : Trust} {x : Except Error α} (hx : Served t P x)
    (h : ∀ err, t.excuses err → t'.excuses err) : Served t' P x := by
  cases x with
  | error err => exact h err hx
  | ok a => exact hx

/-- A step that refuses on a condition is served if the refusal is excused and the rest served. -/
theorem refuseIf {p : Prop} [Decidable p] {err : Error} {f : Unit → Except Error β}
    (herr : t.excuses err) (hf : ¬ p → Served t Q (f ())) :
    Served t Q (if p then (throw err : Except Error Unit) >>= f else f ()) := by
  by_cases hp : p
  · rw [if_pos hp]
    exact herr
  · rw [if_neg hp]
    exact hf hp

/-- A result that is served and no excused failure has the property. -/
theorem exists_of_not_excused {x : Except Error α} (hx : Served t P x)
    (h : ∀ err, x = .error err → ¬ t.excuses err) : ∃ a, x = .ok a ∧ P a := by
  cases x with
  | error err => exact absurd hx (h err rfl)
  | ok a => exact ⟨a, rfl, hx⟩

/-- On any source there is a result where the source does not fail and all searches end. -/
theorem exists_of_sources {searches : Prop} {x : Except Error α}
    (hx : Served (.anySource searches) P x)
    (hsources : ∀ err, x = .error err → err.family ≠ .randomness)
    (hends : searches → x ≠ .error .endless) : ∃ a, x = .ok a ∧ P a := by
  refine hx.exists_of_not_excused fun err herr hexcused ↦ ?_
  obtain hrandom | ⟨rfl, hsearches⟩ := hexcused
  · exact hsources err herr hrandom
  · exact hends hsearches herr

end Served

/-- On every admitted source a computation ends in a result with a property or in an excused
failure, and the source stays. -/
def Draw.Serves (t : Trust) (d : Draw α) (P : α → Prop) : Prop :=
  ∀ e, t.admits e.source → (d.runOn e).2.source = e.source ∧ Served t P (d.runOn e).1

namespace Draw.Serves

variable {t : Trust} {P : α → Prop} {Q : β → Prop}

/-- A promise holds of every result that a computation has. -/
theorem of_runOn {d : Draw α} (hd : d.Serves t P) {e e' : Entropy} {a : α}
    (he : t.admits e.source) (h : d.runOn e = (.ok a, e')) : P a := by
  have hserved := (hd e he).2
  rw [h] at hserved
  exact hserved

/-- On an admitted source the result of a computation is served. -/
theorem served {d : Draw α} (hd : d.Serves t P) {e : Entropy} (he : t.admits e.source) :
    Served t P (d.runOn e).1 := (hd e he).2

/-- A value that needs no draw is served if it has the property. -/
theorem pure {a : α} (h : P a) : Draw.Serves t (Pure.pure a) P := fun _ _ ↦ ⟨rfl, h⟩

/-- A failure is served if it is excused. -/
theorem throw {err : Error} (h : t.excuses err) : Draw.Serves t (throw err) P :=
  fun _ _ ↦ ⟨rfl, h⟩

/-- A step without draws is served if it has a result with the property. -/
theorem lift {x : Except Error α} {a : α} (hx : x = .ok a) (h : P a) :
    Draw.Serves t (liftM x) P := by
  intro e _
  rw [runOn_lift, hx]
  exact ⟨rfl, h⟩

/-- A step without draws is served as it is on its own. -/
theorem lift_served {x : Except Error α} (hx : Served t P x) : Draw.Serves t (liftM x) P := by
  intro e _
  rw [runOn_lift]
  exact ⟨rfl, hx⟩

/-- What the first computation promises is all that the second may rely on. -/
theorem bind {d : Draw α} {f : α → Draw β} (hd : d.Serves t P)
    (hf : ∀ a, P a → (f a).Serves t Q) : (d >>= f).Serves t Q := by
  intro e he
  obtain ⟨hsource, hserved⟩ := hd e he
  rw [runOn_bind]
  revert hsource hserved
  rcases d.runOn e with ⟨r, e'⟩
  intro hsource hserved
  have hsource : e'.source = e.source := hsource
  cases r with
  | error err => exact ⟨hsource, hserved⟩
  | ok a =>
    have he' : t.admits e'.source := by rw [hsource]; exact he
    obtain ⟨hsource', hserved'⟩ := hf a hserved e' he'
    exact ⟨hsource'.trans hsource, hserved'⟩

/-- A step without draws that has a result hands it to the next computation. -/
theorem lift_bind {x : Except Error α} {f : α → Draw β} {a : α} (hx : x = .ok a)
    (hf : (f a).Serves t Q) : ((liftM x : Draw α) >>= f).Serves t Q :=
  bind (lift (P := fun b ↦ b = a) hx rfl) fun _ h ↦ h ▸ hf

/-- A step without draws hands what it promises to the next computation. -/
theorem lift_served_bind {x : Except Error α} {f : α → Draw β} (hx : Served t P x)
    (hf : ∀ a, P a → (f a).Serves t Q) : ((liftM x : Draw α) >>= f).Serves t Q :=
  bind (lift_served hx) hf

/-- A promise may be weakened. -/
theorem mono {P' : α → Prop} {d : Draw α} (hd : d.Serves t P) (h : ∀ a, P a → P' a) :
    d.Serves t P' := fun e he ↦ ⟨(hd e he).1, (hd e he).2.mono h⟩

/-- More failures may be excused, on the same sources. -/
theorem relax {t' : Trust} {d : Draw α} (hd : d.Serves t P)
    (hadmits : ∀ source, t'.admits source → t.admits source)
    (hexcuses : ∀ err, t.excuses err → t'.excuses err) : d.Serves t' P := fun e he ↦
  ⟨(hd e (hadmits _ he)).1, (hd e (hadmits _ he)).2.relax hexcuses⟩

/-- A computation that refuses on a condition is served if the refusal is excused and the rest
served. -/
theorem refuseIf {p : Prop} [Decidable p] {err : Error} {f : Unit → Draw β} (herr : t.excuses err)
    (hf : ¬ p → (f ()).Serves t Q) :
    Draw.Serves t (if p then (MonadExcept.throw err : Draw Unit) >>= f else f ()) Q := by
  by_cases hp : p
  · rw [if_pos hp]
    exact bind (throw (P := fun _ ↦ False) herr) fun _ h ↦ h.elim
  · rw [if_neg hp]
    exact hf hp

private theorem family_of_accept {n : Nat} {r : Reply} {err : Error}
    (h : accept n r = .error err) : err.family = .randomness := by
  cases r with
  | bytes bs =>
    rw [accept] at h
    split at h
    · cases h
    · cases h
      rfl
  | other =>
    cases h
    rfl
  | failure reason =>
    cases h
    rfl

/-- A draw gives exactly the number of bytes asked for. -/
theorem bytes {searches : Prop} (n : Nat) :
    (Draw.bytes n).Serves (.anySource searches) fun bs ↦ bs.length = n := by
  intro e _
  rw [runOn_bytes]
  refine ⟨rfl, ?_⟩
  cases h : accept n (e.source e.asked n) with
  | ok bs => exact length_of_accept h
  | error err => exact .inl (family_of_accept h)

end Draw.Serves

/-- Bytes that were drawn are as many as were asked for. -/
theorem Draw.length_of_runOn_bytes {n : Nat} {e e' : Entropy} {bs : Bytes}
    (h : (bytes n).runOn e = (.ok bs, e')) : bs.length = n :=
  length_of_accept (congrArg Prod.fst h)

end Apake
