import Apake.Proofs.Random.Supply

/-!
# Two computations that a source cannot tell apart

Two computations are alike if on every supply they make the same requests, and end in one failure or
in related results.  Whoever answers the requests sees no difference between them, and neither does
who only sees what the relation leaves equal.
-/

namespace Apake

variable {α α' β β' : Type} {R : α → α' → Prop} {S : β → β' → Prop}

/-- Outcomes that are one failure, or related results. -/
def Related (R : α → α' → Prop) : Except Error α → Except Error α' → Prop
  | .ok a, .ok a' => R a a'
  | .error e, .error e' => e = e'
  | _, _ => False

/-- Related outcomes are one failure, or two results. -/
theorem Related.cases {x : Except Error α} {x' : Except Error α'} (h : Related R x x') :
    (∃ err, x = .error err ∧ x' = .error err) ∨ ∃ a a', x = .ok a ∧ x' = .ok a' ∧ R a a' := by
  cases x with
  | error err =>
    cases x' with
    | error err' => exact .inl ⟨err, rfl, congrArg _ h.symm⟩
    | ok a' => exact h.elim
  | ok a =>
    cases x' with
    | error err' => exact h.elim
    | ok a' => exact .inr ⟨a, a', rfl, rfl, h⟩

/-- On every supply two computations make the same requests and have related outcomes. -/
def Draw.Alike (R : α → α' → Prop) (d : Draw α) (d' : Draw α') : Prop :=
  ∀ e, (d.runOn e).2 = (d'.runOn e).2 ∧ Related R (d.runOn e).1 (d'.runOn e).1

namespace Draw.Alike

/-- Related values are alike. -/
theorem pure {a : α} {a' : α'} (h : R a a') : Draw.Alike R (Pure.pure a) (Pure.pure a') :=
  fun _ ↦ ⟨rfl, h⟩

/-- Steps without draws are alike if their outcomes are related. -/
theorem lift {x : Except Error α} {x' : Except Error α'} (h : Related R x x') :
    Draw.Alike R (liftM x) (liftM x') := by
  intro e
  rw [runOn_lift, runOn_lift]
  exact ⟨rfl, h⟩

/-- Alike computations may be followed by computations that are alike on related results. -/
theorem bind {d : Draw α} {d' : Draw α'} {f : α → Draw β} {f' : α' → Draw β'}
    (hd : Draw.Alike R d d') (hf : ∀ a a', R a a' → Draw.Alike S (f a) (f' a')) :
    Draw.Alike S (d >>= f) (d' >>= f') := by
  intro e
  obtain ⟨hsupply, hrelated⟩ := hd e
  rw [runOn_bind, runOn_bind]
  revert hsupply hrelated
  rcases d.runOn e with ⟨x, e₁⟩
  rcases d'.runOn e with ⟨x', e₁'⟩
  intro hsupply hrelated
  obtain rfl : e₁ = e₁' := hsupply
  obtain ⟨err, hx, hx'⟩ | ⟨a, a', hx, hx', h⟩ := hrelated.cases
  · obtain rfl : x = .error err := hx
    obtain rfl : x' = .error err := hx'
    exact ⟨rfl, rfl⟩
  · obtain rfl : x = .ok a := hx
    obtain rfl : x' = .ok a' := hx'
    exact hf a a' h e₁

/-- One computation may be followed by computations that are alike on its results. -/
theorem bind_self {d : Draw α} {f : α → Draw β} {f' : α → Draw β'}
    (hf : ∀ a, Draw.Alike S (f a) (f' a)) : Draw.Alike S (d >>= f) (d >>= f') := by
  have hd : Draw.Alike (· = ·) d d := by
    intro e
    refine ⟨rfl, ?_⟩
    cases (d.runOn e).1 <;> exact rfl
  exact hd.bind fun a _ h ↦ h ▸ hf a

/-- One step without draws may be followed by computations that are alike on its result. -/
theorem lift_bind_self {x : Except Error α} {f : α → Draw β} {f' : α → Draw β'}
    (hf : ∀ a, x = .ok a → Draw.Alike S (f a) (f' a)) :
    Draw.Alike S ((liftM x : Draw α) >>= f) ((liftM x : Draw α) >>= f') := by
  have hx : Related (fun a a' ↦ a = a' ∧ x = .ok a) x x := by
    cases x with
    | error err => exact rfl
    | ok a => exact ⟨rfl, rfl⟩
  refine (lift hx).bind fun a a' h ↦ ?_
  obtain ⟨rfl, ha⟩ := h
  exact hf a ha

/-- Steps without draws that have results may be followed by computations alike on these. -/
theorem lift_bind {x : Except Error α} {x' : Except Error α'} {a : α} {a' : α'}
    {f : α → Draw β} {f' : α' → Draw β'} (hx : x = .ok a) (hx' : x' = .ok a')
    (hf : Draw.Alike S (f a) (f' a')) :
    Draw.Alike S ((liftM x : Draw α) >>= f) ((liftM x' : Draw α') >>= f') := by
  rw [hx, hx']
  have hlift : Draw.Alike (fun b b' ↦ b = a ∧ b' = a') (liftM (Except.ok a : Except Error α))
      (liftM (Except.ok a' : Except Error α')) := lift ⟨rfl, rfl⟩
  refine hlift.bind fun b b' h ↦ ?_
  obtain ⟨rfl, rfl⟩ := h
  exact hf

/-- One refusal may stand before computations that are alike. -/
theorem refuseIf {p : Prop} [Decidable p] {err : Error} {f : Unit → Draw β} {f' : Unit → Draw β'}
    (hf : Draw.Alike S (f ()) (f' ())) :
    Draw.Alike S (if p then (throw err : Draw Unit) >>= f else f ())
      (if p then (throw err : Draw Unit) >>= f' else f' ()) := by
  split
  · intro e
    rw [runOn_bind, runOn_bind, runOn_throw]
    exact ⟨rfl, rfl⟩
  · exact hf

end Draw.Alike

end Apake
