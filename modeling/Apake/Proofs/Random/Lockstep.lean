import Apake.Group.Exchange
import Apake.Proofs.Random.Alike
import Apake.Proofs.Random.Search

/-!
# Supplies that answer alike from now on

Two supplies may have come to their present state in different ways and still give the same answers
to everything they are asked from now on.  A computation that is run on both has one outcome and
leaves supplies behind of which the same is true; of two computations the outcomes are related.
-/

namespace Apake

/-- Whatever else they are asked in between, two supplies answer the same request alike. -/
def Entropy.Agrees (e e' : Entropy) : Prop :=
  ∀ (later : List Nat) (n : Nat), e.source (later ++ e.asked) n = e'.source (later ++ e'.asked) n

/-- On supplies that agree, two computations have related outcomes and leave supplies that agree. -/
def Draw.Lockstep {α α' : Type} (R : α → α' → Prop) (d : Draw α) (d' : Draw α') : Prop :=
  ∀ e e', e.Agrees e' →
    (d.runOn e).2.Agrees (d'.runOn e').2 ∧ Related R (d.runOn e).1 (d'.runOn e').1

variable {α α' β β' : Type} {R : α → α' → Prop} {S : β → β' → Prop}

/-- Any outcome is related to itself. -/
theorem Related.rfl {x : Except Error α} : Related (· = ·) x x := by
  cases x <;> exact Eq.refl _

/-- What agrees does so both ways. -/
theorem Entropy.Agrees.symm {e e' : Entropy} (h : e.Agrees e') : e'.Agrees e :=
  fun later n ↦ (h later n).symm

namespace Draw.Lockstep

/-- What goes in step with itself has its result on every supply that agrees. -/
theorem runOn_of_ok {d : Draw α} (hd : Draw.Lockstep (· = ·) d d) {e e' e₁ : Entropy} {a : α}
    (he : e.Agrees e') (h : d.runOn e = (.ok a, e₁)) :
    ∃ e₁', d.runOn e' = (.ok a, e₁') ∧ e₁.Agrees e₁' := by
  obtain ⟨hagree, hrelated⟩ := hd e e' he
  rw [h] at hagree hrelated
  obtain ⟨_, hx, -⟩ | ⟨_, a', hx, ha', heq⟩ := hrelated.cases
  · cases hx
  · cases hx
    cases heq
    exact ⟨_, runOn_of_fst ha', hagree⟩

/-- What goes in step with itself has its failure on every supply that agrees. -/
theorem runOn_of_error {d : Draw α} (hd : Draw.Lockstep (· = ·) d d) {e e' e₁ : Entropy}
    {err : Error} (he : e.Agrees e') (h : d.runOn e = (.error err, e₁)) :
    ∃ e₁', d.runOn e' = (.error err, e₁') ∧ e₁.Agrees e₁' := by
  obtain ⟨hagree, hrelated⟩ := hd e e' he
  rw [h] at hagree hrelated
  obtain ⟨err', hx, herr'⟩ | ⟨_, _, hx, -, -⟩ := hrelated.cases
  · cases hx
    exact ⟨_, runOn_of_fst herr', hagree⟩
  · cases hx

/-- Related values go in step. -/
theorem pure {a : α} {a' : α'} (h : R a a') : Draw.Lockstep R (Pure.pure a) (Pure.pure a') :=
  fun _ _ he ↦ ⟨he, h⟩

/-- A failure goes in step with itself. -/
theorem throw (err : Error) : Draw.Lockstep R (MonadExcept.throw err) (MonadExcept.throw err) :=
  fun _ _ he ↦ ⟨he, rfl⟩

/-- Steps without draws go in step if their outcomes are related. -/
theorem lift {x : Except Error α} {x' : Except Error α'} (h : Related R x x') :
    Draw.Lockstep R (liftM x) (liftM x') := by
  intro e e' he
  rw [runOn_lift, runOn_lift]
  exact ⟨he, h⟩

/-- A draw goes in step with itself. -/
theorem bytes (n : Nat) : Draw.Lockstep (· = ·) (Draw.bytes n) (Draw.bytes n) := by
  intro e e' he
  have hreply : e.source e.asked n = e'.source e'.asked n := he [] n
  rw [runOn_bytes, runOn_bytes, hreply]
  refine ⟨fun later m ↦ ?_, .rfl⟩
  have hlater := he (later ++ [n]) m
  simpa only [List.append_assoc, List.singleton_append] using hlater

/-- What goes in step may be followed by what goes in step on related results. -/
theorem bind {d : Draw α} {d' : Draw α'} {f : α → Draw β} {f' : α' → Draw β'}
    (hd : Draw.Lockstep R d d') (hf : ∀ a a', R a a' → Draw.Lockstep S (f a) (f' a')) :
    Draw.Lockstep S (d >>= f) (d' >>= f') := by
  intro e e' he
  obtain ⟨hsupply, hrelated⟩ := hd e e' he
  rw [runOn_bind, runOn_bind]
  revert hsupply hrelated
  rcases d.runOn e with ⟨x, e₁⟩
  rcases d'.runOn e' with ⟨x', e₁'⟩
  intro hsupply hrelated
  obtain ⟨err, hx, hx'⟩ | ⟨a, a', hx, hx', h⟩ := hrelated.cases
  · obtain rfl : x = .error err := hx
    obtain rfl : x' = .error err := hx'
    exact ⟨hsupply, rfl⟩
  · obtain rfl : x = .ok a := hx
    obtain rfl : x' = .ok a' := hx'
    exact hf a a' h e₁ e₁' hsupply

/-- What goes in step with itself may be followed by what goes in step on each of its results. -/
theorem bind_self {d : Draw α} {f : α → Draw β} {f' : α → Draw β'}
    (hd : Draw.Lockstep (· = ·) d d) (hf : ∀ a, Draw.Lockstep S (f a) (f' a)) :
    Draw.Lockstep S (d >>= f) (d >>= f') :=
  hd.bind fun a _ h ↦ h ▸ hf a

/-- A step without draws may be followed by what goes in step on its result. -/
theorem lift_bind_self {x : Except Error α} {f : α → Draw β} {f' : α → Draw β'}
    (hf : ∀ a, Draw.Lockstep S (f a) (f' a)) :
    Draw.Lockstep S ((liftM x : Draw α) >>= f) ((liftM x : Draw α) >>= f') :=
  (lift .rfl).bind_self hf

/-- What goes in step with itself is searched in step. -/
theorem first {d : Draw α} {p : α → Bool} (hd : Draw.Lockstep (· = ·) d d) :
    Draw.Lockstep (· = ·) (d.first p) (d.first p) := by
  -- A search that ends on one supply does so on any other that agrees with it.
  have hsome {e : Entropy} {r : Except Error α × Entropy} (h : d.search p e = some r) :
      ∀ e', e.Agrees e' → ∃ r', d.search p e' = some r' ∧ r.2.Agrees r'.2 ∧
        Related (· = ·) r.1 r'.1 := by
    refine search_induction (motive := fun e r ↦ ∀ e', e.Agrees e' → ∃ r',
      d.search p e' = some r' ∧ r.2.Agrees r'.2 ∧ Related (· = ·) r.1 r'.1) ?_ ?_ ?_ h
    · intro e err e₁ hrun e' he
      obtain ⟨e₁', hrun', hagree⟩ := hd.runOn_of_error he hrun
      exact ⟨_, search_of_error hrun', hagree, rfl⟩
    · intro e a e₁ hrun ha e' he
      obtain ⟨e₁', hrun', hagree⟩ := hd.runOn_of_ok he hrun
      exact ⟨_, search_of_pass hrun' ha, hagree, rfl⟩
    · intro e a e₁ r hrun ha hnext e' he
      obtain ⟨e₁', hrun', hagree⟩ := hd.runOn_of_ok he hrun
      rw [search_of_miss hrun' ha]
      exact hnext e₁' hagree
  intro e e' he
  cases h : d.search p e with
  | some r =>
    obtain ⟨r', h', hagree, hrelated⟩ := hsome h e' he
    rw [runOn_first_of_some h, runOn_first_of_some h']
    exact ⟨hagree, hrelated⟩
  | none =>
    cases h' : d.search p e' with
    | some r' =>
      obtain ⟨r, hr, -⟩ := hsome h' e he.symm
      rw [hr] at h
      cases h
    | none =>
      rw [runOn_first_of_none h, runOn_first_of_none h']
      exact ⟨he, rfl⟩

/-- Scalars are drawn in step. -/
theorem randomScalar (g : PrimeGroup) :
    Draw.Lockstep (· = ·) g.randomScalar g.randomScalar := by
  have hnumber (n : Nat) : Draw.Lockstep (· = ·) (Draw.number n) (Draw.number n) :=
    (bytes n).bind_self fun _ ↦ pure rfl
  have hsample : Draw.Lockstep (· = ·) g.sample g.sample := by
    unfold PrimeGroup.sample
    split
    · exact (hnumber _).bind_self fun k ↦ pure rfl
    · exact (hnumber _).first
  have hfrom (attempts : Nat) :
      Draw.Lockstep (· = ·) (g.randomFrom attempts) (g.randomFrom attempts) := by
    induction attempts with
    | zero => exact throw _
    | succ attempts ih =>
      refine hsample.bind_self fun k ↦ ?_
      split
      · exact ih
      · exact pure rfl
  exact hfrom 64

/-- Private keys are drawn in step. -/
theorem randomPrivateKey [Groups] (x : ExchangeName) :
    Draw.Lockstep (· = ·) x.randomPrivateKey x.randomPrivateKey := by
  cases x with
  | x25519 => exact bytes 32
  | prime group => exact (randomScalar _).bind_self fun k ↦ lift .rfl

end Draw.Lockstep

end Apake
