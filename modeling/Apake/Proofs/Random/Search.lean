import Apake.Proofs.Random.Supply

/-!
# Searches among draws

A search repeats a computation until a result passes a test.  What holds of the result that ends it
is proved by going through its repetitions.  A search never ends exactly if every number of
repetitions is passed without a usable result; to see this it is enough to name what every
repetition finds and leaves.
-/

namespace Apake.Draw

variable {α : Type} {d : Draw α} {p : α → Bool} {e e' : Entropy} {a : α} {err : Error}

/-! ### One repetition -/

/-- A result that passes the test ends the search. -/
theorem search_of_pass (h : d.runOn e = (.ok a, e')) (ha : p a = true) :
    d.search p e = some (.ok a, e') := by
  rw [search, h]
  simp [ha]

/-- A result that does not pass is dropped. -/
theorem search_of_miss (h : d.runOn e = (.ok a, e')) (ha : p a = false) :
    d.search p e = d.search p e' := by
  rw [search, h]
  simp [ha]

/-- A failure ends the search. -/
theorem search_of_error (h : d.runOn e = (.error err, e')) :
    d.search p e = some (.error err, e') := by
  rw [search, h]

/-- A search that ends is what is drawn. -/
theorem runOn_first_of_some {r : Except Error α × Entropy} (h : d.search p e = some r) :
    (d.first p).runOn e = r := by
  show (d.search p e).getD _ = r
  rw [h, Option.getD_some]

/-- A search that does not end is an endless draw. -/
theorem runOn_first_of_none (h : d.search p e = none) :
    (d.first p).runOn e = (.error .endless, e) := by
  show (d.search p e).getD _ = _
  rw [h, Option.getD_none]

/-- A result that passes at once is the one drawn. -/
theorem runOn_first_of_pass (h : d.runOn e = (.ok a, e')) (ha : p a = true) :
    (d.first p).runOn e = (.ok a, e') :=
  runOn_first_of_some (search_of_pass h ha)

/-! ### All repetitions -/

/-- What holds where a repetition ends the search, and holds after a repetition only if it held
before, is true of every search that ends. -/
theorem search_induction {motive : Entropy → Except Error α × Entropy → Prop}
    (error : ∀ e err e', d.runOn e = (.error err, e') → motive e (.error err, e'))
    (pass : ∀ e a e', d.runOn e = (.ok a, e') → p a = true → motive e (.ok a, e'))
    (miss : ∀ e a e' r, d.runOn e = (.ok a, e') → p a = false → motive e' r → motive e r)
    {e : Entropy} {r : Except Error α × Entropy} (h : d.search p e = some r) : motive e r := by
  refine search.partial_correctness d p motive (fun found ih e r h ↦ ?_) e r h
  cases hrun : d.runOn e with
  | mk outcome e' =>
    rw [hrun] at h
    cases outcome with
    | error err =>
      cases h
      exact error e err e' hrun
    | ok a =>
      cases ha : p a with
      | true =>
        simp only [ha, if_true, Option.some.injEq] at h
        subst h
        exact pass e a e' hrun ha
      | false =>
        simp only [ha, Bool.false_eq_true, if_false] at h
        exact miss e a e' r hrun ha (ih e' r h)

/-- Where every repetition has a result that does not pass and leaves a supply on which it is so
again, the search never ends. -/
theorem search_eq_none_of_invariant (Stuck : Entropy → Prop)
    (hstep : ∀ e, Stuck e → ∃ a e', d.runOn e = (.ok a, e') ∧ p a = false ∧ Stuck e')
    (he : Stuck e) : d.search p e = none := by
  cases hsearch : d.search p e with
  | none => rfl
  | some r =>
    refine absurd he (search_induction (motive := fun e _ ↦ ¬ Stuck e) ?_ ?_ ?_ hsearch)
    · intro e err e' hrun hstuck
      obtain ⟨_, _, hrun', -⟩ := hstep e hstuck
      cases hrun.symm.trans hrun'
    · intro e a e' hrun ha hstuck
      obtain ⟨_, _, hrun', ha', -⟩ := hstep e hstuck
      cases hrun.symm.trans hrun'
      rw [ha] at ha'
      cases ha'
    · intro e a e' r hrun _ hnext hstuck
      obtain ⟨_, _, hrun', -, hstuck'⟩ := hstep e hstuck
      cases hrun.symm.trans hrun'
      exact hnext hstuck'

/-- So many repetitions in a row have results that do not pass. -/
inductive Misses (d : Draw α) (p : α → Bool) : Nat → Entropy → Entropy → Prop
  | zero (e : Entropy) : Misses d p 0 e e
  | succ {e e' e'' : Entropy} {a : α} {n : Nat} :
      d.runOn e = (.ok a, e') → p a = false → Misses d p n e' e'' → Misses d p (n + 1) e e''

/-- A search ends exactly if, after some results that do not pass, a repetition fails or has one that
does. -/
theorem search_eq_some_iff {r : Except Error α × Entropy} :
    d.search p e = some r ↔
      ∃ n e', Misses d p n e e' ∧ d.runOn e' = r ∧ ∀ a, r.1 = .ok a → p a = true := by
  constructor
  · intro h
    refine search_induction (motive := fun e r ↦
      ∃ n e', Misses d p n e e' ∧ d.runOn e' = r ∧ ∀ a, r.1 = .ok a → p a = true) ?_ ?_ ?_ h
    · intro e err e' hrun
      exact ⟨0, e, .zero e, hrun, nofun⟩
    · intro e a e' hrun ha
      refine ⟨0, e, .zero e, hrun, fun b hb ↦ ?_⟩
      cases hb
      exact ha
    · rintro e a e' r hrun ha ⟨n, e'', hmisses, hlast, hpass⟩
      exact ⟨n + 1, e'', .succ hrun ha hmisses, hlast, hpass⟩
  · rintro ⟨n, e', hmisses, hlast, hpass⟩
    induction hmisses with
    | zero e =>
      obtain ⟨outcome, e'⟩ := r
      cases outcome with
      | error err => exact search_of_error hlast
      | ok a => exact search_of_pass hlast (hpass a rfl)
    | succ hrun ha _ ih => exact (search_of_miss hrun ha).trans (ih hlast)

/-- A search never ends exactly if any number of repetitions have results that do not pass. -/
theorem search_eq_none_iff : d.search p e = none ↔ ∀ n, ∃ e', Misses d p n e e' := by
  constructor
  · intro h n
    induction n generalizing e with
    | zero => exact ⟨e, .zero e⟩
    | succ n ih =>
      cases hrun : d.runOn e with
      | mk outcome e' =>
        cases outcome with
        | error err =>
          rw [search_of_error hrun] at h
          cases h
        | ok a =>
          cases ha : p a with
          | true =>
            rw [search_of_pass hrun ha] at h
            cases h
          | false =>
            rw [search_of_miss hrun ha] at h
            obtain ⟨e'', hmisses⟩ := ih h
            exact ⟨e'', .succ hrun ha hmisses⟩
  · refine search_eq_none_of_invariant (fun e ↦ ∀ n, ∃ e', Misses d p n e e') ?_
    intro e hstuck
    obtain ⟨_, hone⟩ := hstuck 1
    cases hone with
    | @succ _ e' _ a _ hrun ha _ =>
      refine ⟨a, e', hrun, ha, fun n ↦ ?_⟩
      obtain ⟨e'', hmore⟩ := hstuck (n + 1)
      cases hmore with
      | succ hrun' _ hrest =>
        cases hrun.symm.trans hrun'
        exact ⟨e'', hrest⟩

/-- A search that ends does so in a failure of a repetition or in a result that passes. -/
theorem Serves.first {t : Trust} {P : α → Prop} (hd : d.Serves t P)
    (hendless : t.excuses .endless) : (d.first p).Serves t fun a ↦ P a ∧ p a = true := by
  intro e he
  cases hsearch : d.search p e with
  | none =>
    rw [runOn_first_of_none hsearch]
    exact ⟨rfl, hendless⟩
  | some r =>
    rw [runOn_first_of_some hsearch]
    revert he
    refine search_induction (motive := fun e r ↦ t.admits e.source →
      r.2.source = e.source ∧ Served t (fun a ↦ P a ∧ p a = true) r.1) ?_ ?_ ?_ hsearch
    · intro e err e' hrun he
      have hserved := hd e he
      rw [hrun] at hserved
      exact hserved
    · intro e a e' hrun ha he
      have hserved := hd e he
      rw [hrun] at hserved
      exact ⟨hserved.1, hserved.2, ha⟩
    · intro e a e' r hrun _ hnext he
      have hsource := (hd e he).1
      rw [hrun] at hsource
      have hsource : e'.source = e.source := hsource
      rw [hsource] at hnext
      exact hnext he

end Apake.Draw
