import Apake.Group.Exchange
import Apake.Proofs.Random.Search

/-!
# Draws that are not answered in full

A computation is vigilant if it stops at the first draw that does not give the bytes asked for, with
that draw's failure.  Every draw is, and vigilance is kept by all ways to build a computation, so it
does not matter at which place of a loop or after how many other draws a source goes wrong.  A
search that never ends puts none of its draws on record.
-/

namespace Apake

/-- A reply to a request for `n` bytes that consists of so many bytes. -/
def Reply.IsFull (n : Nat) (r : Reply) : Prop := ∃ bs, r = .bytes bs ∧ bs.length = n

/-- Only a reply in full is accepted; any other is a failure for which the source is to blame. -/
theorem Draw.accept_cases (n : Nat) (r : Reply) :
    (r.IsFull n ∧ ∃ bs, accept n r = .ok bs) ∨
      (¬ r.IsFull n ∧ ∃ err, accept n r = .error err ∧ err.family = .randomness) := by
  cases r with
  | bytes bs =>
    by_cases hlength : bs.length = n
    · exact .inl ⟨⟨bs, rfl, hlength⟩, bs, by rw [accept, if_pos hlength]⟩
    · refine .inr ⟨?_, _, by rw [accept, if_neg hlength], rfl⟩
      rintro ⟨_, hbs, hlength'⟩
      cases hbs
      exact hlength hlength'
  | other => exact .inr ⟨by simp [Reply.IsFull], _, rfl, rfl⟩
  | failure reason => exact .inr ⟨by simp [Reply.IsFull], _, rfl, rfl⟩

/-- The draws `made` after those on record, most recent first, were answered in full, but for the
last one if the outcome is the failure that its answer is. -/
def Draw.Stops {α : Type} (e : Entropy) (made : List Nat) (outcome : Except Error α) : Prop :=
  ∀ later n earlier, made = later ++ n :: earlier →
    (e.source (earlier ++ e.asked) n).IsFull n ∨
      later = [] ∧ ∃ err, outcome = .error err ∧
        accept n (e.source (earlier ++ e.asked) n) = .error err ∧ err.family = .randomness

/-- A computation that puts its draws on record and stops at one that is not answered in full. -/
def Draw.Vigilant {α : Type} (d : Draw α) : Prop :=
  ∀ e, ∃ made, (d.runOn e).2 = { e with asked := made ++ e.asked } ∧
    Stops e made (d.runOn e).1

namespace Draw

variable {α β : Type}

namespace Stops

variable {e : Entropy} {made made' : List Nat} {outcome : Except Error α}

/-- Where nothing was drawn there is nothing to stop at. -/
theorem nil : Stops e [] outcome := fun _ _ _ h ↦ by simp at h

/-- Before a result all draws were answered in full. -/
theorem isFull_of_ok {a : α} (h : Stops e made (.ok a)) {later earlier : List Nat} {n : Nat}
    (hmade : made = later ++ n :: earlier) : (e.source (earlier ++ e.asked) n).IsFull n := by
  obtain hfull | ⟨-, _, hfailed, -⟩ := h later n earlier hmade
  · exact hfull
  · cases hfailed

/-- A failure is one of whatever else was to come. -/
theorem of_error {err : Error} (h : Stops e made (.error err : Except Error α)) :
    Stops e made (.error err : Except Error β) := fun later n earlier hmade ↦ by
  obtain hfull | ⟨hlast, _, hfailed, haccept, hfamily⟩ := h later n earlier hmade
  · exact .inl hfull
  · cases hfailed
    exact .inr ⟨hlast, err, rfl, haccept, hfamily⟩

/-- Draws that gave a result may be followed by others. -/
theorem append {a : α} {outcome' : Except Error β} (h : Stops e made (.ok a))
    (h' : Stops { e with asked := made ++ e.asked } made' outcome') :
    Stops e (made' ++ made) outcome' := by
  intro later n earlier hmade
  obtain ⟨rest, hlater, hrest⟩ | ⟨rest, hmade', hrest⟩ := List.append_eq_append_iff.mp hmade
  · exact .inl (h.isFull_of_ok hrest)
  · cases rest with
    | nil =>
      have hfirst : made = [] ++ n :: earlier := hrest.symm
      exact .inl (h.isFull_of_ok hfirst)
    | cons m rest =>
      obtain ⟨rfl, rfl⟩ := List.cons.inj hrest
      have hstops := h' later n rest hmade'
      rwa [← List.append_assoc] at hstops

end Stops

namespace Vigilant

variable {d : Draw α} {f : α → Draw β}

/-- A value is vigilant. -/
theorem pure (a : α) : Vigilant (Pure.pure a) := fun _ ↦ ⟨[], rfl, .nil⟩

/-- A failure is vigilant. -/
theorem throw (err : Error) : Vigilant (MonadExcept.throw err : Draw α) := fun _ ↦ ⟨[], rfl, .nil⟩

/-- A step without draws is vigilant. -/
theorem lift (x : Except Error α) : Vigilant (liftM x) := by
  intro e
  rw [runOn_lift]
  exact ⟨[], rfl, .nil⟩

/-- A draw is vigilant. -/
theorem bytes (n : Nat) : Vigilant (Draw.bytes n) := by
  intro e
  rw [runOn_bytes]
  refine ⟨[n], rfl, fun later m earlier hmade ↦ ?_⟩
  obtain ⟨rfl, hlast⟩ | ⟨-, hnone⟩ := List.singleton_eq_append_iff.mp hmade
  · obtain ⟨rfl, rfl⟩ := List.cons.inj hlast
    obtain ⟨hfull, -⟩ | ⟨-, err, hfailed, hfamily⟩ := accept_cases m (e.source e.asked m)
    · exact .inl hfull
    · exact .inr ⟨rfl, err, hfailed, hfailed, hfamily⟩
  · cases hnone

/-- Behind a vigilant computation that has a result, what puts its draws on record and stops does so
with all draws so far. -/
theorem after (hd : d.Vigilant) {e e' : Entropy} {a : α} (hrun : d.runOn e = (.ok a, e'))
    {r : Except Error β × Entropy}
    (h : ∃ made, r.2 = { e' with asked := made ++ e'.asked } ∧ Stops e' made r.1) :
    ∃ made, r.2 = { e with asked := made ++ e.asked } ∧ Stops e made r.1 := by
  obtain ⟨made, hsupply, hstops⟩ := hd e
  rw [hrun] at hsupply hstops
  obtain rfl : e' = { e with asked := made ++ e.asked } := hsupply
  obtain ⟨made', hsupply', hstops'⟩ := h
  refine ⟨made' ++ made, hsupply'.trans ?_, hstops.append hstops'⟩
  rw [List.append_assoc]

/-- A computation may be followed by others. -/
theorem bind (hd : d.Vigilant) (hf : ∀ a, (f a).Vigilant) : (d >>= f).Vigilant := by
  intro e
  rw [runOn_bind]
  cases hrun : d.runOn e with
  | mk outcome e' =>
    cases outcome with
    | error err =>
      obtain ⟨made, hsupply, hstops⟩ := hd e
      rw [hrun] at hsupply hstops
      exact ⟨made, hsupply, hstops.of_error⟩
    | ok a => exact hd.after hrun (hf a e')

/-- A step without draws may be followed by others. -/
theorem lift_bind {x : Except Error α} (hf : ∀ a, (f a).Vigilant) :
    ((liftM x : Draw α) >>= f).Vigilant := (lift x).bind hf

/-- A computation may refuse on a condition. -/
theorem refuseIf {p : Prop} [Decidable p] {err : Error} {f : Unit → Draw β}
    (hf : (f ()).Vigilant) :
    Vigilant (if p then (MonadExcept.throw err : Draw Unit) >>= f else f ()) := by
  split
  · exact (throw err).bind fun _ ↦ hf
  · exact hf

/-- A search is vigilant at each of its repetitions. -/
theorem first {p : α → Bool} (hd : d.Vigilant) : (d.first p).Vigilant := by
  intro e
  cases hsearch : d.search p e with
  | none =>
    rw [runOn_first_of_none hsearch]
    exact ⟨[], rfl, .nil⟩
  | some r =>
    rw [runOn_first_of_some hsearch]
    refine search_induction (motive := fun e r ↦ ∃ made,
      r.2 = { e with asked := made ++ e.asked } ∧ Stops e made r.1) ?_ ?_ ?_ hsearch
    · intro e err e' hrun
      have hstops := hd e
      rwa [hrun] at hstops
    · intro e a e' hrun _
      have hstops := hd e
      rwa [hrun] at hstops
    · intro e a e' r hrun _ hnext
      exact hd.after hrun hnext

/-- Scalars are drawn with vigilance, however many draws it takes. -/
theorem randomScalar (g : PrimeGroup) : g.randomScalar.Vigilant := by
  have hnumber (n : Nat) : (Draw.number n).Vigilant := (bytes n).bind fun bs ↦ pure _
  have hsample : g.sample.Vigilant := by
    unfold PrimeGroup.sample
    split
    · exact (hnumber _).bind fun k ↦ pure _
    · exact (hnumber _).first
  have hfrom (attempts : Nat) : (g.randomFrom attempts).Vigilant := by
    induction attempts with
    | zero => exact throw _
    | succ attempts ih =>
      refine hsample.bind fun k ↦ ?_
      split
      · exact ih
      · exact pure _
  exact hfrom 64

/-- Private keys are drawn with vigilance. -/
theorem randomPrivateKey [Groups] (x : ExchangeName) : x.randomPrivateKey.Vigilant := by
  cases x with
  | x25519 => exact bytes 32
  | prime group => exact (randomScalar _).bind fun k ↦ lift _

end Vigilant

/-- A step without draws leaves the supply alone if what comes after its result does. -/
theorem snd_runOn_lift_bind {x : Except Error α} {f : α → Draw β} {e : Entropy}
    (h : ∀ a, x = .ok a → ((f a).runOn e).2 = e) : (((liftM x : Draw α) >>= f).runOn e).2 = e := by
  cases x with
  | error err => rw [runOn_lift_bind_of_error rfl]
  | ok a =>
    rw [runOn_lift_bind_of_ok rfl rfl]
    exact h a rfl

end Draw

end Apake
