import Apake.Stretching.Function
import Apake.Proofs.Random.Supply
import Apake.Proofs.Text.Units

/-!
# Settings come back

The parameters of a stretching function are settings that make the same function again, under the
names that they are written with.  Every parameter is one of the settings that the function was made
with, or a default.
-/

namespace Apake

/-- Parameters of scrypt are made from exactly the settings that they hold. -/
theorem Scrypt.Parameters.make_eq_ok_iff {n r p : Stretching.Setting} {q : Parameters} :
    make n r p = .ok q ↔ n = .integer q.n ∧ r = q.r ∧ p = q.p := by
  constructor
  · intro h
    obtain ⟨isLess, -, h⟩ := Except.bind_eq_ok_iff.mp h
    obtain ⟨-, h⟩ := Except.refuseIf_eq_ok_iff.mp h
    cases n with
    | integer value =>
      dsimp only at h
      split at h
      · next hcost =>
        cases h
        have hvalue : (value.toNat : Int) = value := Int.toNat_of_nonneg (by omega)
        exact ⟨by rw [hvalue], rfl, rfl⟩
      · cases h
    | _ => cases h
  · rintro ⟨rfl, rfl, rfl⟩
    have hless : Json.less (.integer q.n) (.integer 2) = .ok false := by
      have h2 := q.cost.1
      have hnot : ¬ (q.n : Int) < 2 := by omega
      simpa [Json.less, Json.amount?, Amount.less, Amount.ofInt] using hnot
    refine Except.bind_of_ok hless ?_
    simp only [Bool.false_eq_true, if_false, Int.toNat_natCast]
    rw [dif_pos q.cost]
    rfl

/-- Parameters of Argon2id are made from exactly the settings that they hold. -/
theorem Argon2.Parameters.make_eq_ok_iff {memory passes lanes : Stretching.Setting}
    {q : Parameters} :
    make memory passes lanes = .ok q ↔ memory = q.memory ∧ passes = q.passes ∧ lanes = q.lanes := by
  constructor
  · intro h
    unfold make at h
    split at h
    · cases h
      exact ⟨rfl, rfl, rfl⟩
    · cases h
  · rintro ⟨rfl, rfl, rfl⟩
    unfold make
    split
    · rfl
    · next e he =>
      rw [q.checked] at he
      cases he

namespace Stretching

/-- Settings under names that a function knows are accepted. -/
theorem known_of_mem {function maker : String} {names : List String}
    {settings : List (Units × Setting)} (hself : "self" ∉ names)
    (h : ∀ p ∈ settings, p.1 ∈ names.map Units.ofString) :
    known function maker names settings = .ok () := by
  induction settings with
  | nil => rfl
  | cons p settings ih =>
    obtain ⟨name, hname, hkey⟩ := List.mem_map.mp (h p (List.mem_cons_self ..))
    have hne : p.1 ≠ Units.ofString "self" := by
      rw [← hkey]
      intro heq
      have htext := congrArg Units.toText heq
      rw [Units.toText_ofString, Units.toText_ofString] at htext
      exact hself (htext ▸ hname)
    have hany : (names.any fun name ↦ p.1 = Units.ofString name) = true :=
      List.any_eq_true.mpr ⟨name, hname, by simpa using hkey.symm⟩
    rw [known, if_neg hne, if_pos hany, ih fun q hq ↦ h q (List.mem_cons_of_mem p hq)]

/-- A result is one within the settings of a function exactly if it is one at all. -/
theorem within_eq_ok_iff {α : Type} {function : String} {x : Except Error α} {a : α} :
    within function x = .ok a ↔ x = .ok a := by
  unfold within
  split <;> simp

/-- A function is made again from its parameters. -/
theorem ofName_parameters (f : Stretching) (h : ∀ p ∈ f.parameters, p.2 ≠ .null) :
    ofName (Units.ofString f.name)
      (f.parameters.map fun (k, v) ↦ (Units.ofString k, v)) = .ok f := by
  have hkept : ((f.parameters.map fun (k, v) ↦ (Units.ofString k, v)).filter (·.2 ≠ .null)) =
      f.parameters.map fun (k, v) ↦ (Units.ofString k, v) := by
    refine List.filter_eq_self.mpr fun p hp ↦ ?_
    obtain ⟨q, hq, rfl⟩ := List.mem_map.mp hp
    simpa using h q hq
  unfold ofName
  rw [hkept, Units.toText_ofString]
  cases f with
  | identity => rfl
  | scrypt q =>
    refine Except.bind_of_ok (known_of_mem (by decide) ?_) (within_eq_ok_iff.mpr ?_)
    · simp [parameters]
    · have hmade := Scrypt.Parameters.make_eq_ok_iff (q := q).mpr ⟨rfl, rfl, rfl⟩
      exact congrArg (Except.map scrypt) hmade
  | argon2id q =>
    refine Except.bind_of_ok (known_of_mem (by decide) ?_) (within_eq_ok_iff.mpr ?_)
    · simp [parameters]
    · have hmade := Argon2.Parameters.make_eq_ok_iff (q := q).mpr ⟨rfl, rfl, rfl⟩
      exact congrArg (Except.map argon2id) hmade

/-- A name that is a text is looked up as it is. -/
theorem ofJson_ofString (name : String) (settings : List (Units × Setting)) :
    ofJson (.ofString name) settings = ofName (Units.ofString name) settings := by
  unfold ofJson Json.ofString Json.checkKey
  simp only [bind, Except.bind]

/-- What holds of all defaults and of all settings that are given holds of the parameters. -/
theorem forall_parameters_of_ofName {P : Setting → Prop} {name : Units}
    {settings : List (Units × Setting)} {f : Stretching}
    (hscrypt : ∀ p ∈ (scrypt {}).parameters, P p.2)
    (hargon : ∀ p ∈ (argon2id {}).parameters, P p.2)
    (hsettings : ∀ p ∈ settings, p.2 ≠ .null → P p.2) (h : ofName name settings = .ok f) :
    ∀ p ∈ f.parameters, P p.2 := by
  have hsetting {key : String} {default : Setting} (hdefault : P default) :
      P (((settings.filter (·.2 ≠ .null)).lookup (Units.ofString key)).getD default) := by
    cases hlookup : (settings.filter (·.2 ≠ .null)).lookup (Units.ofString key) with
    | none => exact hdefault
    | some v =>
      obtain ⟨before, after, hsplit, -⟩ := List.lookup_eq_some_iff.mp hlookup
      have hmem : (Units.ofString key, v) ∈ settings.filter (·.2 ≠ .null) := by
        rw [hsplit]
        exact List.mem_append_right before (List.mem_cons_self ..)
      obtain ⟨hgiven, hnull⟩ := List.mem_filter.mp hmem
      exact hsettings _ hgiven (of_decide_eq_true hnull)
  simp only [parameters, List.forall_mem_cons] at hscrypt hargon
  obtain ⟨hn, hr, hp, -⟩ := hscrypt
  obtain ⟨hmemory, hpasses, hlanes, -⟩ := hargon
  unfold ofName at h
  dsimp only at h
  split at h
  · obtain ⟨-, -, h⟩ := Except.bind_eq_ok_iff.mp h
    cases h
    exact List.forall_mem_nil _
  · obtain ⟨-, -, h⟩ := Except.bind_eq_ok_iff.mp h
    obtain ⟨q, hq, h⟩ := Except.bind_eq_ok_iff.mp (within_eq_ok_iff.mp h)
    cases h
    obtain ⟨hn', hr', hp'⟩ := Scrypt.Parameters.make_eq_ok_iff.mp hq
    simp only [parameters, List.forall_mem_cons, ← hn', ← hr', ← hp']
    exact ⟨hsetting hn, hsetting hr, hsetting hp, List.forall_mem_nil _⟩
  · obtain ⟨-, -, h⟩ := Except.bind_eq_ok_iff.mp h
    obtain ⟨q, hq, h⟩ := Except.bind_eq_ok_iff.mp (within_eq_ok_iff.mp h)
    cases h
    obtain ⟨hmemory', hpasses', hlanes'⟩ := Argon2.Parameters.make_eq_ok_iff.mp hq
    simp only [parameters, List.forall_mem_cons, ← hmemory', ← hpasses', ← hlanes']
    exact ⟨hsetting hmemory, hsetting hpasses, hsetting hlanes, List.forall_mem_nil _⟩
  · cases h

end Stretching

end Apake
