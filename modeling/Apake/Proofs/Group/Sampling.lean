import Apake.Proofs.Group.Sizes

/-!
# How many draws a scalar takes

A scalar is the first sample other than zero.  Samples count towards the 64 attempts, and so do the
draws where each of them is taken modulo the order.  Where numbers from the order on are rejected,
the draws that are rejected do not count; a source can have any number of them made, and one that
never answers anything else keeps a scalar from ever being drawn.
-/

namespace Apake

/-- A source that always returns as many bytes as it is asked for. -/
def Source.IsFaithful (s : Source) : Prop :=
  ∀ earlier n, ∃ bs, s earlier n = .bytes bs ∧ bs.length = n

/-- Draws of `n` bytes each from a supply spell these numbers, in their order, and leave another
supply behind. -/
inductive Entropy.Spells (n : Nat) : Entropy → List Nat → Entropy → Prop
  | nil (e : Entropy) : Spells n e [] e
  | cons {e e' : Entropy} {bs : Bytes} {ks : List Nat} :
      e.source e.asked n = .bytes bs → bs.length = n →
      Spells n { e with asked := n :: e.asked } ks e' → Spells n e (Bytes.toNat bs :: ks) e'

namespace Entropy.Spells

variable {n : Nat} {e e' e'' : Entropy} {ks ks' : List Nat}

/-- Draws after draws are draws. -/
theorem append (h : e.Spells n ks e') (h' : e'.Spells n ks' e'') : e.Spells n (ks ++ ks') e'' := by
  induction h with
  | nil => exact h'
  | cons hreply hlength _ ih => exact .cons hreply hlength (ih h')

/-- Each number was asked for once, and the source stays. -/
theorem eq_asked (h : e.Spells n ks e') :
    e' = { e with asked := List.replicate ks.length n ++ e.asked } := by
  induction h with
  | nil => rfl
  | @cons e e' bs ks _ _ _ ih =>
    have hasked : List.replicate ks.length n ++ n :: e.asked =
        List.replicate (ks.length + 1) n ++ e.asked := by
      rw [List.replicate_succ', List.append_assoc, List.singleton_append]
    rw [ih, List.length_cons, ← hasked]

/-- What is left behind has the same source. -/
theorem source_eq (h : e.Spells n ks e') : e'.source = e.source := by rw [h.eq_asked]

end Entropy.Spells

/-- A faithful source gives a number, which its bytes spell. -/
theorem Draw.runOn_number_of_isFaithful {e : Entropy} (he : e.source.IsFaithful) (n : Nat) :
    ∃ k e', (Draw.number n).runOn e = (.ok k, e') ∧ e.Spells n [k] e' := by
  obtain ⟨bs, hreply, hlength⟩ := he e.asked n
  have hbytes : (Draw.bytes n).runOn e = (.ok bs, { e with asked := n :: e.asked }) := by
    rw [runOn_bytes, hreply, accept, if_pos hlength]
  exact ⟨_, _, runOn_bind_of_ok hbytes rfl, .cons hreply hlength (.nil _)⟩

/-- A number that is drawn from a faithful source is what its answer spells. -/
theorem Draw.spells_of_runOn_number {e e' : Entropy} (he : e.source.IsFaithful) {n k : Nat}
    (hrun : (Draw.number n).runOn e = (.ok k, e')) : e.Spells n [k] e' := by
  obtain ⟨_, _, hrun', hspells⟩ := runOn_number_of_isFaithful he n
  cases hrun.symm.trans hrun'
  exact hspells

/-- The bytes of each draw. -/
def Sampling.size : Sampling → Nat
  | .reduce bytes => bytes
  | .reject bytes => bytes

namespace PrimeGroup

variable (g : PrimeGroup)

/-- The sample that a drawn number gives, unless it is rejected. -/
def sampleOf (k : Nat) : Option Nat :=
  match g.sampling with
  | .reduce _ => some (k % g.order)
  | .reject _ => if k < g.order then some k else none

/-- The samples that drawn numbers give. -/
def samples (ks : List Nat) : List Nat := ks.filterMap g.sampleOf

/-- The last of the numbers gives the sample `k`, which is not zero, after fewer than `attempts`
samples that are zero. -/
def Finds (attempts : Nat) (ks : List Nat) (k : Nat) : Prop :=
  ∃ init last zeros, ks = init ++ [last] ∧ g.sampleOf last = some k ∧ k ≠ 0 ∧
    g.samples init = List.replicate zeros 0 ∧ zeros < attempts

/-- There are `attempts` samples, and all of them are zero. -/
def Exhausts (attempts : Nat) (ks : List Nat) : Prop := g.samples ks = List.replicate attempts 0

/-- After fewer than `attempts` samples that are zero a supply has only numbers that are rejected,
however many are drawn. -/
def Starves (attempts : Nat) (e : Entropy) : Prop :=
  ∃ init zeros, g.samples init = List.replicate zeros 0 ∧ zeros < attempts ∧
    ∀ m, ∃ rejected e', e.Spells g.sampling.size (init ++ rejected) e' ∧
      g.samples rejected = [] ∧ rejected.length = m

variable {g} {attempts k : Nat} {ks ks' : List Nat}

theorem samples_append : g.samples (ks ++ ks') = g.samples ks ++ g.samples ks' :=
  List.filterMap_append

/-- Where a number is taken modulo the order, every number gives a sample. -/
theorem length_samples_of_reduce {n : Nat} (h : g.sampling = .reduce n) :
    (g.samples ks).length = ks.length := by
  have hall : g.sampleOf = fun k ↦ some (k % g.order) := by
    funext k
    rw [sampleOf, h]
  rw [samples, hall, List.filterMap_eq_map', List.length_map]

/-- What is found is a scalar. -/
theorem Finds.isScalar (hpos : 0 < g.order) (h : g.Finds attempts ks k) : g.IsScalar k := by
  obtain ⟨_, last, _, -, hlast, hne, -⟩ := h
  refine ⟨Nat.pos_of_ne_zero hne, ?_⟩
  unfold sampleOf at hlast
  split at hlast
  · cases hlast
    exact Nat.mod_lt _ hpos
  · split at hlast
    · next hlt =>
      cases hlast
      exact hlt
    · cases hlast

/-- There are no more samples than attempts until a scalar is found. -/
theorem Finds.length_le (h : g.Finds attempts ks k) : (g.samples ks).length ≤ attempts := by
  obtain ⟨init, last, zeros, rfl, hlast, -, hzeros, hlt⟩ := h
  have hone : g.samples [last] = [k] := by simp [samples, hlast]
  rw [samples_append, hzeros, hone, List.length_append, List.length_replicate]
  exact hlt

/-- There are as many samples as attempts when drawing gives up. -/
theorem Exhausts.length_eq (h : g.Exhausts attempts ks) : (g.samples ks).length = attempts := by
  rw [h, List.length_replicate]

/-- Only a search can be kept from having a sample. -/
theorem Starves.searches {e : Entropy} (h : g.Starves attempts e) : g.Searches := by
  obtain ⟨_, _, -, -, hrejected⟩ := h
  obtain ⟨rejected, _, -, hnone, hone⟩ := hrejected 1
  cases hsampling : g.sampling with
  | reject n => exact ⟨n, hsampling⟩
  | reduce n =>
    have hall : (g.samples rejected).length = rejected.length := length_samples_of_reduce hsampling
    rw [hnone, hone] at hall
    cases hall

/-- A sample of zero in front leaves one attempt less. -/
theorem Finds.of_zero (hzero : g.samples ks = [0]) (h : g.Finds attempts ks' k) :
    g.Finds (attempts + 1) (ks ++ ks') k := by
  obtain ⟨init, last, zeros, rfl, hlast, hne, hzeros, hlt⟩ := h
  refine ⟨ks ++ init, last, zeros + 1, (List.append_assoc ..).symm, hlast, hne, ?_, by omega⟩
  rw [samples_append, hzero, hzeros, List.singleton_append, List.replicate_succ]

/-- A sample of zero in front leaves one attempt less before drawing gives up. -/
theorem Exhausts.of_zero (hzero : g.samples ks = [0]) (h : g.Exhausts attempts ks') :
    g.Exhausts (attempts + 1) (ks ++ ks') := by
  unfold Exhausts
  rw [samples_append, hzero, h, List.singleton_append, List.replicate_succ]

/-- Of more attempts more samples may be zero before only rejected numbers are left. -/
theorem Starves.mono {attempts' : Nat} {e : Entropy} (hle : attempts ≤ attempts')
    (h : g.Starves attempts e) : g.Starves attempts' e := by
  obtain ⟨init, zeros, hzeros, hlt, hrejected⟩ := h
  exact ⟨init, zeros, hzeros, by omega, hrejected⟩

/-- A sample of zero in front leaves one attempt less before only rejected numbers are left. -/
theorem Starves.of_zero {e e' : Entropy} (hspells : e.Spells g.sampling.size ks e')
    (hzero : g.samples ks = [0]) (h : g.Starves attempts e') : g.Starves (attempts + 1) e := by
  obtain ⟨init, zeros, hzeros, hlt, hrejected⟩ := h
  refine ⟨ks ++ init, zeros + 1, ?_, by omega, fun m ↦ ?_⟩
  · rw [samples_append, hzero, hzeros, List.singleton_append, List.replicate_succ]
  · obtain ⟨rejected, e'', hspells', hnone, hlength⟩ := hrejected m
    refine ⟨rejected, e'', ?_, hnone, hlength⟩
    rw [List.append_assoc]
    exact hspells.append hspells'

/-! ### What a faithful source leads to -/

variable {e e' : Entropy} {n : Nat}

/-- Numbers that are drawn and not usable were spelled and are rejected. -/
theorem exists_spells_of_misses (hsampling : g.sampling = .reject n) {m : Nat}
    (he : e.source.IsFaithful) (h : Draw.Misses (Draw.number n) (· < g.order) m e e') :
    ∃ rejected, e.Spells n rejected e' ∧ g.samples rejected = [] ∧ rejected.length = m := by
  induction h with
  | zero e => exact ⟨[], .nil e, rfl, rfl⟩
  | @succ e e₁ e'' k m hrun hk _ ih =>
    have hspells := Draw.spells_of_runOn_number he hrun
    rw [← hspells.source_eq] at he
    obtain ⟨rejected, hspells', hnone, hlength⟩ := ih he
    have hfirst : g.samples [k] = [] := by
      simp [samples, sampleOf, hsampling, of_decide_eq_false hk]
    refine ⟨[k] ++ rejected, hspells.append hspells', ?_, ?_⟩
    · rw [samples_append, hfirst, hnone, List.nil_append]
    · rw [List.length_append, hlength, List.length_singleton, Nat.add_comm]

/-- A search for a number below the order that ends has rejected all numbers but the last. -/
theorem exists_spells_of_search (hsampling : g.sampling = .reject n) (he : e.source.IsFaithful)
    {r : Except Error Nat × Entropy}
    (h : (Draw.number n).search (· < g.order) e = some r) :
    ∃ rejected k, e.Spells n (rejected ++ [k]) r.2 ∧ g.samples rejected = [] ∧
      g.sampleOf k = some k ∧ r.1 = .ok k := by
  obtain ⟨m, e', hmisses, hlast, hpass⟩ := Draw.search_eq_some_iff.mp h
  obtain ⟨rejected, hspells, hnone, -⟩ := exists_spells_of_misses hsampling he hmisses
  rw [← hspells.source_eq] at he
  -- The source is faithful still, so the repetition that ends the search has a number.
  obtain ⟨k, e'', hrun, hspells'⟩ := Draw.runOn_number_of_isFaithful he n
  rw [hrun] at hlast
  subst hlast
  have hk : k < g.order := of_decide_eq_true (hpass k rfl)
  refine ⟨rejected, k, hspells.append hspells', hnone, ?_, rfl⟩
  rw [sampleOf, hsampling]
  exact if_pos hk

/-- Sampling ends at the first number that gives a sample, or all numbers are rejected. -/
theorem sample_of_isFaithful (he : e.source.IsFaithful) :
    (∃ rejected last k e', e.Spells g.sampling.size (rejected ++ [last]) e' ∧
        g.samples rejected = [] ∧ g.sampleOf last = some k ∧ g.sample.runOn e = (.ok k, e')) ∨
      (g.Starves 1 e ∧ g.sample.runOn e = (.error .endless, e)) := by
  unfold sample
  cases hsampling : g.sampling with
  | reduce n =>
    obtain ⟨k, e', hrun, hspells⟩ := Draw.runOn_number_of_isFaithful he n
    refine .inl ⟨[], k, k % g.order, e', hspells, rfl, ?_, Draw.runOn_bind_of_ok hrun rfl⟩
    rw [sampleOf, hsampling]
  | reject n =>
    dsimp only
    cases hsearch : (Draw.number n).search (· < g.order) e with
    | some r =>
      obtain ⟨rejected, k, hspells, hnone, hsample, hr⟩ :=
        exists_spells_of_search hsampling he hsearch
      refine .inl ⟨rejected, k, k, r.2, hspells, hnone, hsample, ?_⟩
      rw [Draw.runOn_first_of_some hsearch, ← hr]
    | none =>
      refine .inr ⟨⟨[], 0, rfl, Nat.one_pos, fun m ↦ ?_⟩, Draw.runOn_first_of_none hsearch⟩
      obtain ⟨e', hmisses⟩ := Draw.search_eq_none_iff.mp hsearch m
      obtain ⟨rejected, hspells, hnone, hlength⟩ := exists_spells_of_misses hsampling he hmisses
      rw [hsampling]
      exact ⟨rejected, e', hspells, hnone, hlength⟩

/-- A number of attempts ends at the first sample other than zero or uses up all attempts, or it does
not end, since from some sample on all numbers are rejected. -/
theorem randomFrom_of_isFaithful (he : e.source.IsFaithful) (attempts : Nat) :
    (∃ ks e', e.Spells g.sampling.size ks e' ∧
      ((∃ k, g.Finds attempts ks k ∧ (g.randomFrom attempts).runOn e = (.ok k, e')) ∨
        (g.Exhausts attempts ks ∧
          (g.randomFrom attempts).runOn e = (.error .noUsableScalar, e')))) ∨
      (g.Starves attempts e ∧ ((g.randomFrom attempts).runOn e).1 = .error .endless) := by
  induction attempts generalizing e with
  | zero => exact .inl ⟨[], e, .nil e, .inr ⟨rfl, rfl⟩⟩
  | succ attempts ih =>
    obtain ⟨rejected, last, k, e', hspells, hnone, hlast, hrun⟩ | ⟨hstarves, hrun⟩ :=
      sample_of_isFaithful (g := g) he
    · by_cases hzero : k = 0
      · have hone : g.samples (rejected ++ [last]) = [0] := by
          rw [samples_append, hnone, List.nil_append]
          simp [samples, hlast, hzero]
        have hnext : (g.randomFrom (attempts + 1)).runOn e = (g.randomFrom attempts).runOn e' := by
          refine Draw.runOn_bind_of_ok hrun ?_
          rw [if_pos hzero]
        rw [← hspells.source_eq] at he
        rw [hnext]
        obtain ⟨ks, e'', hspells', ⟨k', hfinds, hrun'⟩ | ⟨hexhausts, hrun'⟩⟩ | ⟨hstarves, hrun'⟩ :=
          ih he
        · exact .inl ⟨_, e'', hspells.append hspells', .inl ⟨k', hfinds.of_zero hone, hrun'⟩⟩
        · exact .inl ⟨_, e'', hspells.append hspells', .inr ⟨hexhausts.of_zero hone, hrun'⟩⟩
        · exact .inr ⟨hstarves.of_zero hspells hone, hrun'⟩
      · refine .inl ⟨_, e', hspells, .inl ⟨k, ?_, ?_⟩⟩
        · exact ⟨rejected, last, 0, rfl, hlast, hzero, hnone, attempts.succ_pos⟩
        · refine Draw.runOn_bind_of_ok hrun ?_
          rw [if_neg hzero]
          rfl
    · refine .inr ⟨hstarves.mono (by omega), ?_⟩
      have hendless : (g.randomFrom (attempts + 1)).runOn e = (.error .endless, e) :=
        Draw.runOn_bind_of_error hrun
      rw [hendless]

end PrimeGroup

/-! ### A source that keeps rejection going -/

/-- A source whose first `m` answers spell the highest number there is, and every later one spells
one. -/
def Source.late (m : Nat) : Source := fun earlier n ↦
  .bytes (if earlier.length < m then List.replicate n 255 else Bytes.ofNat n 1)

/-- A source whose answers all spell the highest number there is. -/
def Source.stuck : Source := fun _ n ↦ .bytes (List.replicate n 255)

namespace Source

variable {m n : Nat} {asked : List Nat}

/-- The stuck source is faithful. -/
theorem isFaithful_stuck : stuck.IsFaithful := fun _ _ ↦ ⟨_, rfl, List.length_replicate⟩

/-- Always the highest number is drawn. -/
theorem runOn_bytes_stuck (n : Nat) (asked : List Nat) :
    (Draw.bytes n).runOn ⟨stuck, asked⟩ = (.ok (List.replicate n 255), ⟨stuck, n :: asked⟩) := by
  rw [Draw.runOn_bytes]
  dsimp only
  rw [stuck, Draw.accept, if_pos List.length_replicate]

/-- The late sources are faithful. -/
theorem isFaithful_late (m : Nat) : (late m).IsFaithful := by
  refine fun earlier n ↦ ⟨_, rfl, ?_⟩
  split
  · exact List.length_replicate
  · exact Bytes.length_ofNat n 1

/-- At first the highest number is drawn. -/
theorem runOn_bytes_late_of_lt (h : asked.length < m) :
    (Draw.bytes n).runOn ⟨late m, asked⟩ = (.ok (List.replicate n 255), ⟨late m, n :: asked⟩) := by
  have hreply : late m asked n = .bytes (List.replicate n 255) := by rw [late, if_pos h]
  rw [Draw.runOn_bytes]
  dsimp only
  rw [hreply, Draw.accept, if_pos List.length_replicate]

/-- From the `m`th draw on one is drawn. -/
theorem runOn_bytes_late_of_le (h : m ≤ asked.length) :
    (Draw.bytes n).runOn ⟨late m, asked⟩ = (.ok (Bytes.ofNat n 1), ⟨late m, n :: asked⟩) := by
  have hreply : late m asked n = .bytes (Bytes.ofNat n 1) := by
    rw [late, if_neg (Nat.not_lt.mpr h)]
  rw [Draw.runOn_bytes]
  dsimp only
  rw [hreply, Draw.accept, if_pos (Bytes.length_ofNat n 1)]

end Source

namespace PrimeGroup

variable {g : PrimeGroup} {m n : Nat}

/-- Sampling by rejection follows a late source to its first low answer, however late that is. -/
theorem search_late (hone : 1 < g.order) (hn : 0 < n)
    (hhigh : g.order ≤ Bytes.toNat (List.replicate n 255)) {rest : Nat} {asked : List Nat}
    (hrest : asked.length + rest = m) :
    (Draw.number n).search (· < g.order) ⟨.late m, asked⟩ =
      some (.ok 1, ⟨.late m, List.replicate (rest + 1) n ++ asked⟩) := by
  induction rest generalizing asked with
  | zero =>
    have hspelled : Bytes.toNat (Bytes.ofNat n 1) = 1 :=
      Bytes.toNat_ofNat (Nat.one_lt_pow hn.ne' (by decide))
    have hrun : (Draw.number n).runOn ⟨.late m, asked⟩ = (.ok 1, ⟨.late m, n :: asked⟩) := by
      refine Draw.runOn_bind_of_ok (Source.runOn_bytes_late_of_le hrest.ge) ?_
      rw [hspelled]
      rfl
    exact Draw.search_of_pass hrun (decide_eq_true hone)
  | succ rest ih =>
    have hasked : List.replicate (rest + 1) n ++ n :: asked =
        List.replicate (rest + 1 + 1) n ++ asked := by
      rw [List.replicate_succ' (n := rest + 1), List.append_assoc, List.singleton_append]
    have hrun : (Draw.number n).runOn ⟨.late m, asked⟩ =
        (.ok (Bytes.toNat (List.replicate n 255)), ⟨.late m, n :: asked⟩) :=
      Draw.runOn_bind_of_ok (Source.runOn_bytes_late_of_lt (by omega)) rfl
    rw [Draw.search_of_miss hrun (decide_eq_false (Nat.not_lt.mpr hhigh)), ← hasked]
    exact ih (by rw [List.length_cons]; omega)

/-- Where numbers from the order on are rejected, a faithful source can have any number of draws
made for one scalar. -/
theorem randomScalar_late (hsampling : g.sampling = .reject n) (hone : 1 < g.order) (hn : 0 < n)
    (hhigh : g.order ≤ Bytes.toNat (List.replicate n 255)) (m : Nat) :
    g.randomScalar.runOn ⟨.late m, []⟩ = (.ok 1, ⟨.late m, List.replicate (m + 1) n⟩) := by
  have hsample : g.sample.runOn ⟨.late m, []⟩ = (.ok 1, ⟨.late m, List.replicate (m + 1) n⟩) := by
    have hstart : ([] : List Nat).length + m = m := Nat.zero_add m
    have hsearch := search_late hone hn hhigh hstart
    rw [List.append_nil] at hsearch
    unfold sample
    rw [hsampling]
    exact Draw.runOn_first_of_some hsearch
  refine Draw.runOn_bind_of_ok hsample ?_
  rw [if_neg Nat.one_ne_zero]
  rfl

/-- Where numbers from the order on are rejected, a faithful source that always spells the highest
number there is keeps a scalar from ever being drawn. -/
theorem randomScalar_stuck (hsampling : g.sampling = .reject n)
    (hhigh : g.order ≤ Bytes.toNat (List.replicate n 255)) (asked : List Nat) :
    (g.randomScalar.runOn ⟨.stuck, asked⟩).1 = .error .endless := by
  have hsearch : (Draw.number n).search (· < g.order) ⟨.stuck, asked⟩ = none := by
    refine Draw.search_eq_none_of_invariant (fun e ↦ e.source = .stuck) ?_ rfl
    rintro ⟨_, asked⟩ rfl
    refine ⟨_, _, Draw.runOn_bind_of_ok (Source.runOn_bytes_stuck n asked) rfl, ?_, rfl⟩
    exact decide_eq_false (Nat.not_lt.mpr hhigh)
  have hsample : g.sample.runOn ⟨.stuck, asked⟩ = (.error .endless, ⟨.stuck, asked⟩) := by
    unfold sample
    rw [hsampling]
    exact Draw.runOn_first_of_none hsearch
  have hrun : g.randomScalar.runOn ⟨.stuck, asked⟩ = (.error .endless, ⟨.stuck, asked⟩) :=
    Draw.runOn_bind_of_error hsample
  rw [hrun]

end PrimeGroup

/-! ### The standard groups -/

namespace Residue

private theorem order_le_high : order ≤ Bytes.toNat (List.replicate 28 255) := by decide

private theorem one_lt_order : 1 < order := by decide

/-- The residues draw as often as a late source has them draw. -/
theorem randomScalar_late (m : Nat) : group.randomScalar.runOn ⟨.late m, []⟩ =
    (.ok 1, ⟨.late m, List.replicate (m + 1) 28⟩) :=
  PrimeGroup.randomScalar_late (g := group) rfl one_lt_order (by decide) order_le_high m

/-- The residues draw for ever from a stuck source. -/
theorem randomScalar_stuck (asked : List Nat) :
    (group.randomScalar.runOn ⟨.stuck, asked⟩).1 = .error .endless :=
  PrimeGroup.randomScalar_stuck (g := group) rfl order_le_high asked

end Residue

section Standard

attribute [local instance] Groups.standard

open PrimeGroup

/-- Of the standard groups the residues alone are searched. -/
theorem PrimeGroupName.searches_iff {n : PrimeGroupName} :
    (Groups.prime n).Searches ↔ n = .i2048 := by
  constructor
  · rintro ⟨_, hreject⟩
    cases n with
    | ed25519 => cases hreject
    | i2048 => rfl
  · rintro rfl
    exact ⟨28, rfl⟩

/-- So with the other suites no call draws for ever. -/
theorem Suite.searches_iff {s : Suite} : s.Searches ↔ s.selection = .i2048Sha256 := by
  obtain ⟨selection, stretching⟩ := s
  constructor
  · intro h
    cases selection with
    | i2048Sha256 => rfl
    | ed25519X25519Sha256 =>
      obtain hgroup | hexchange := h
      · cases PrimeGroupName.searches_iff.mp hgroup
      · cases hexchange
    | ed25519Sha512 =>
      obtain hgroup | hexchange := h
      · cases PrimeGroupName.searches_iff.mp hgroup
      · cases PrimeGroupName.searches_iff.mp hexchange
  · rintro rfl
    exact .inl (PrimeGroupName.searches_iff.mpr rfl)

/-- On a faithful source a scalar of a standard group is found, or drawing gives up, after at most 64
samples, of which all but a scalar at the end are zero; on the Edwards curve these are all draws that
there are.  Or drawing never ends, which happens to the residues only: after fewer than 64 samples
that are zero they reject every number, for as long as one looks. -/
theorem PrimeGroupName.randomScalar_of_isFaithful (n : PrimeGroupName) {e : Entropy}
    (he : e.source.IsFaithful) :
    (∃ ks e', e.Spells (Groups.prime n).sampling.size ks e' ∧
      ((∃ k, (Groups.prime n).Finds 64 ks k ∧ (Groups.prime n).IsScalar k ∧
          (Groups.prime n).randomScalar.runOn e = (.ok k, e')) ∨
        ((Groups.prime n).Exhausts 64 ks ∧
          (Groups.prime n).randomScalar.runOn e = (.error .noUsableScalar, e'))) ∧
      ((Groups.prime n).samples ks).length ≤ 64 ∧ (n = .ed25519 → ks.length ≤ 64)) ∨
    (n = .i2048 ∧ (Groups.prime n).Starves 64 e ∧
      ((Groups.prime n).randomScalar.runOn e).1 = .error .endless) := by
  obtain ⟨ks, e', hspells, h⟩ | ⟨hstarves, hrun⟩ :=
    randomFrom_of_isFaithful (g := Groups.prime n) he 64
  · left
    have hpos : 0 < (Groups.prime n).order := (Groups.sized_standard.prime n).order_pos
    have hsamples : ((Groups.prime n).samples ks).length ≤ 64 := by
      obtain ⟨k, hfinds, -⟩ | ⟨hexhausts, -⟩ := h
      · exact hfinds.length_le
      · exact hexhausts.length_eq.le
    refine ⟨ks, e', hspells, ?_, hsamples, ?_⟩
    · obtain ⟨k, hfinds, hrun⟩ | h := h
      · exact .inl ⟨k, hfinds, hfinds.isScalar hpos, hrun⟩
      · exact .inr h
    · rintro rfl
      have hall : ((Groups.prime .ed25519).samples ks).length = ks.length :=
        length_samples_of_reduce (n := 64) rfl
      rwa [hall] at hsamples
  · right
    exact ⟨searches_iff.mp hstarves.searches, hstarves, hrun⟩

/-- A source that spells one from its third answer on has the residues find it. -/
theorem PrimeGroupName.randomScalar_of_late : (Source.late 2).IsFaithful ∧
    ∃ ks e', Entropy.Spells 28 ⟨.late 2, []⟩ ks e' ∧
      ((Groups.prime .i2048).samples ks).length ≤ 64 ∧
      ((Groups.prime .i2048).randomScalar.runOn ⟨.late 2, []⟩).1 = .ok 1 := by
  have hrun : (Groups.prime .i2048).randomScalar.runOn ⟨.late 2, []⟩ =
      (.ok 1, ⟨.late 2, List.replicate 3 28⟩) := Residue.randomScalar_late 2
  obtain ⟨ks, e', hspells, -, hsamples, -⟩ | ⟨-, -, hendless⟩ :=
    randomScalar_of_isFaithful .i2048 (e := ⟨.late 2, []⟩) (Source.isFaithful_late 2)
  · exact ⟨Source.isFaithful_late 2, ks, e', hspells, hsamples, by rw [hrun]⟩
  · rw [hrun] at hendless
    cases hendless

/-- The residues draw 65 times from a source whose first 64 answers are too high. -/
theorem PrimeGroupName.randomScalar_residue_draws : (Source.late 64).IsFaithful ∧
    (Groups.prime .i2048).randomScalar.runOn ⟨.late 64, []⟩ =
      (.ok 1, ⟨.late 64, List.replicate 65 28⟩) :=
  ⟨Source.isFaithful_late 64, Residue.randomScalar_late 64⟩

/-- On a source that is stuck at its highest answer the residues never find a scalar. -/
theorem PrimeGroupName.randomScalar_residue_stuck : Source.stuck.IsFaithful ∧
    ((Groups.prime .i2048).randomScalar.runOn ⟨.stuck, []⟩).1 = .error .endless :=
  ⟨Source.isFaithful_stuck, Residue.randomScalar_stuck []⟩

end Standard

end Apake
