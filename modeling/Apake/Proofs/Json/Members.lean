import Mathlib.Data.List.Forall2
import Apake.Json.Reader
import Apake.Proofs.Random.Supply

/-!
# Members of objects

Putting a member into a list takes the place of the one of its name and leaves every other as it is,
so that a list with different names keeps them different.  The reader puts every member that it
finds in this way: no object that it reads has two members of a name, however deep it lies.
-/

namespace Apake.Json

/-! ### Putting a member -/

section Insert

variable {α : Type} {key : Units} {v : α} {ms : List (Units × α)}

/-- A member that was put is found, and every other is found as before. -/
theorem lookup_insert (key : Units) (v : α) (ms : List (Units × α)) (k : Units) :
    (insert key v ms).lookup k = if k = key then some v else ms.lookup k := by
  induction ms with
  | nil => by_cases hk : k = key <;> simp [insert, hk]
  | cons m ms ih =>
    obtain ⟨name, w⟩ := m
    rw [insert]
    by_cases hname : name = key
    · subst hname
      rw [if_pos rfl, List.lookup_cons, List.lookup_cons]
      by_cases hk : k = name
      · rw [if_pos hk, beq_iff_eq.mpr hk]
      · rw [if_neg hk, beq_eq_false_iff_ne.mpr hk]
    · rw [if_neg hname, List.lookup_cons, List.lookup_cons, ih]
      by_cases hk : k = name
      · subst hk
        simp [hname]
      · rw [beq_eq_false_iff_ne.mpr hk]

/-- A member is the one that was put or one from before. -/
theorem mem_of_mem_insert {p : Units × α} (h : p ∈ insert key v ms) : p = (key, v) ∨ p ∈ ms := by
  induction ms with
  | nil => exact .inl (List.mem_singleton.mp h)
  | cons m ms ih =>
    rw [insert] at h
    split at h
    · next hname =>
      rcases List.mem_cons.mp h with rfl | hmem
      · exact .inl (by rw [hname])
      · exact .inr (List.mem_cons_of_mem _ hmem)
    · rcases List.mem_cons.mp h with rfl | hmem
      · exact .inr (List.mem_cons_self ..)
      · exact (ih hmem).imp_right (List.mem_cons_of_mem _)

/-- Putting a member brings no name but its own. -/
theorem mem_names_of_mem_insert {k : Units} (h : k ∈ (insert key v ms).map Prod.fst) :
    k = key ∨ k ∈ ms.map Prod.fst := by
  obtain ⟨p, hp, rfl⟩ := List.mem_map.mp h
  rcases mem_of_mem_insert hp with rfl | hmem
  · exact .inl rfl
  · exact .inr (List.mem_map_of_mem hmem)

/-- Different names stay different. -/
theorem nodup_insert (h : (ms.map Prod.fst).Nodup) : ((insert key v ms).map Prod.fst).Nodup := by
  induction ms with
  | nil => simp [insert]
  | cons m ms ih =>
    obtain ⟨hm, hms⟩ := List.nodup_cons.mp h
    rw [insert]
    split
    · exact h
    · next hname =>
      refine List.nodup_cons.mpr ⟨fun hmem ↦ ?_, ih hms⟩
      exact (mem_names_of_mem_insert hmem).elim hname hm

/-- Where names are different, a member is found under its own. -/
theorem lookup_of_mem (h : (ms.map Prod.fst).Nodup) {p : Units × α} (hp : p ∈ ms) :
    ms.lookup p.1 = some p.2 := by
  induction ms with
  | nil => cases hp
  | cons m ms ih =>
    obtain ⟨hm, hms⟩ := List.nodup_cons.mp h
    rcases List.mem_cons.mp hp with rfl | hmem
    · rw [List.lookup_cons, beq_self_eq_true]
    · have hne : p.1 ≠ m.1 := fun heq ↦ hm (heq ▸ List.mem_map_of_mem hmem)
      rw [List.lookup_cons, beq_eq_false_iff_ne.mpr hne]
      exact ih hms hmem

/-- A member that is found is in the list. -/
theorem mem_of_lookup {k : Units} (h : ms.lookup k = some v) : (k, v) ∈ ms := by
  obtain ⟨before, after, rfl, -⟩ := List.lookup_eq_some_iff.mp h
  exact List.mem_append_right before (List.mem_cons_self ..)

/-- What is found in a list is found in one that goes with it name by name. -/
theorem lookup_of_forall₂ {β : Type} {R : α → β → Prop} {ps : List (Units × α)}
    {qs : List (Units × β)} (h : List.Forall₂ (fun p q ↦ p.1 = q.1 ∧ R p.2 q.2) ps qs)
    {identifier : Units} {a : α} (ha : ps.lookup identifier = some a) :
    ∃ b, qs.lookup identifier = some b ∧ R a b := by
  induction h with
  | nil => cases ha
  | cons hpq _ ih =>
    obtain ⟨hname, hR⟩ := hpq
    rw [List.lookup_cons] at ha ⊢
    rw [← hname]
    split at ha
    · cases ha
      exact ⟨_, rfl, hR⟩
    · exact ih ha

/-- Putting a member changes nothing exactly if it was found before. -/
theorem insert_eq_self_iff : insert key v ms = ms ↔ ms.lookup key = some v := by
  constructor
  · intro h
    rw [← h, lookup_insert, if_pos rfl]
  · intro h
    induction ms with
    | nil => cases h
    | cons m ms ih =>
      obtain ⟨name, w⟩ := m
      rw [insert]
      by_cases hname : name = key
      · subst hname
        rw [List.lookup_cons, beq_self_eq_true] at h
        rw [if_pos rfl, Option.some.inj h]
      · rw [List.lookup_cons, beq_eq_false_iff_ne.mpr (Ne.symm hname)] at h
        rw [if_neg hname, ih h]

/-- Of two members that are put under one name the later one stays. -/
theorem insert_insert (key : Units) (v w : α) (ms : List (Units × α)) :
    insert key w (insert key v ms) = insert key w ms := by
  induction ms with
  | nil => simp [insert]
  | cons m ms ih =>
    rw [insert, insert]
    split
    · next hname => rw [insert, if_pos hname]
    · next hname => rw [insert, if_neg hname, ih]

/-- A member is counted unless it takes the place of another. -/
theorem length_insert (key : Units) (v : α) (ms : List (Units × α)) :
    (insert key v ms).length = if (ms.lookup key).isSome then ms.length else ms.length + 1 := by
  induction ms with
  | nil => rfl
  | cons m ms ih =>
    rw [insert, List.lookup_cons]
    by_cases hname : m.1 = key
    · rw [if_pos hname, beq_iff_eq.mpr hname.symm]
      rfl
    · rw [if_neg hname, beq_eq_false_iff_ne.mpr (Ne.symm hname), List.length_cons, ih]
      dsimp only [List.length_cons]
      split <;> rfl

/-- The list after members were put one after the other. -/
def insertAll (ms : List (Units × α)) (news : List (Units × α)) : List (Units × α) :=
  news.foldl (fun ms p ↦ insert p.1 p.2 ms) ms

/-- What was put last under a name is found under it, and what was there if nothing was put. -/
theorem lookup_insertAll (ms news : List (Units × α)) (k : Units) :
    (insertAll ms news).lookup k = (news.reverse.lookup k).or (ms.lookup k) := by
  induction news generalizing ms with
  | nil => rfl
  | cons p news ih =>
    have hlast : [p].lookup k = if k = p.1 then some p.2 else none := lookup_insert p.1 p.2 [] k
    rw [insertAll, List.foldl_cons, ← insertAll, ih, lookup_insert, List.reverse_cons,
      List.lookup_append, Option.or_assoc, hlast]
    split <;> rfl

/-- Different names stay different. -/
theorem nodup_insertAll (h : (ms.map Prod.fst).Nodup) (news : List (Units × α)) :
    ((insertAll ms news).map Prod.fst).Nodup := by
  induction news generalizing ms with
  | nil => exact h
  | cons p news ih => exact ih (nodup_insert h)

end Insert

/-! ### What the reader finds -/

private theorem Except.map_eq_ok_iff {ε α β : Type} {x : Except ε α} {f : α → β} {b : β} :
    x.map f = .ok b ↔ ∃ a, x = .ok a ∧ f a = b := by
  cases x <;> simp [Except.map]

mutual

/-- Whether no object in a value has two members of a name. -/
def Distinct : Json → Prop
  | null | bool _ | integer _ | decimal _ | text _ => True
  | array vs => DistinctItems vs
  | object ms => (ms.map Prod.fst).Nodup ∧ DistinctMembers ms

/-- Whether no object in any of some values has two members of a name. -/
def DistinctItems : List Json → Prop
  | [] => True
  | v :: vs => Distinct v ∧ DistinctItems vs

/-- Whether no object in the value of a member has two members of a name. -/
def DistinctMembers : List (Units × Json) → Prop
  | [] => True
  | (_, v) :: ms => Distinct v ∧ DistinctMembers ms

end

theorem distinctItems_iff {vs : List Json} : DistinctItems vs ↔ ∀ v ∈ vs, v.Distinct := by
  induction vs with
  | nil => exact iff_of_true trivial (List.forall_mem_nil _)
  | cons v vs ih => rw [DistinctItems, ih, List.forall_mem_cons]

theorem distinctMembers_iff {ms : List (Units × Json)} :
    DistinctMembers ms ↔ ∀ p ∈ ms, p.2.Distinct := by
  induction ms with
  | nil => exact iff_of_true trivial (List.forall_mem_nil _)
  | cons p ms ih => rw [DistinctMembers, ih, List.forall_mem_cons]

/-- A member without such objects leaves an object without them. -/
theorem Distinct.insert {ms : List (Units × Json)} (h : (object ms).Distinct) {v : Json}
    (hv : v.Distinct) (key : Units) : (object (Json.insert key v ms)).Distinct := by
  obtain ⟨hnames, hmembers⟩ := h
  refine ⟨nodup_insert hnames, distinctMembers_iff.mpr fun p hp ↦ ?_⟩
  rcases mem_of_mem_insert hp with rfl | hmem
  · exact hv
  · exact distinctMembers_iff.mp hmembers p hmem

/-- A value that a word stands for holds no object. -/
theorem distinct_of_literal? {k k' : Cursor} {j : Json} (h : literal? k = some (j, k')) :
    j.Distinct := by
  obtain ⟨⟨word, value⟩, hmem, h⟩ := List.exists_of_findSome?_eq_some h
  dsimp only at h
  split at h
  · cases h
    simp only [literals, List.mem_cons, Prod.mk.injEq, List.not_mem_nil, or_false] at hmem
    obtain ⟨-, rfl⟩ | ⟨-, rfl⟩ | ⟨-, rfl⟩ | ⟨-, rfl⟩ | ⟨-, rfl⟩ | ⟨-, rfl⟩ := hmem <;> trivial
  · cases h

/-- A number is no object. -/
theorem distinct_of_number {k k' : Cursor} {j : Json} (h : number k = .ok (j, k')) :
    j.Distinct := by
  unfold number at h
  split at h
  split at h
  · cases h
  · dsimp only at h
    split at h
    · split at h
      · cases h
      · cases h
        trivial
    · cases h
      trivial

/-- What is read in so many steps has different names everywhere, if what was read before has. -/
structure ReadsDistinct (steps : Nat) : Prop where
  of_value : ∀ {room k j k'}, value room steps k = .ok (j, k') → j.Distinct
  of_items : ∀ {room done k vs k'}, items room done steps k = .ok (vs, k') →
    (∀ v ∈ done, v.Distinct) → ∀ v ∈ vs, v.Distinct
  of_members : ∀ {room done k ms k'}, members room done steps k = .ok (ms, k') →
    (object done).Distinct → (object ms).Distinct

section Steps

variable {steps room : Nat} {k k' : Cursor}

/-- A value is a word, a number, a text, or a list or an object of what is read in fewer steps. -/
theorem ReadsDistinct.value_succ (ih : ReadsDistinct steps) {j : Json}
    (h : value room (steps + 1) k = .ok (j, k')) : j.Distinct := by
  rw [value] at h
  dsimp only at h
  split at h
  · obtain ⟨_, -, h⟩ := Except.map_eq_ok_iff.mp h
    cases h
    trivial
  · split at h
    · cases h
    · split at h
      · cases h
        trivial
      · obtain ⟨_, hread, h⟩ := Except.map_eq_ok_iff.mp h
        cases h
        exact distinctItems_iff.mpr (ih.of_items hread (List.forall_mem_nil _))
  · split at h
    · cases h
    · split at h
      · cases h
        exact ⟨List.nodup_nil, trivial⟩
      · obtain ⟨_, hread, h⟩ := Except.map_eq_ok_iff.mp h
        cases h
        exact ih.of_members hread ⟨List.nodup_nil, trivial⟩
  · split at h
    · next hliteral =>
      cases h
      exact distinct_of_literal? hliteral
    · exact distinct_of_number h

/-- One more value of a list is read and then the rest of it. -/
theorem ReadsDistinct.items_succ (ih : ReadsDistinct steps) {done vs : List Json}
    (h : items room done (steps + 1) k = .ok (vs, k')) (hdone : ∀ v ∈ done, v.Distinct) :
    ∀ v ∈ vs, v.Distinct := by
  rw [items] at h
  obtain ⟨⟨v, k₁⟩, hv, h⟩ := Except.bind_eq_ok_iff.mp h
  have hmore : ∀ w ∈ v :: done, w.Distinct := List.forall_mem_cons.mpr ⟨ih.of_value hv, hdone⟩
  dsimp only at h
  split at h
  · cases h
    exact fun w hw ↦ hmore w (List.mem_reverse.mp hw)
  · exact ih.of_items h hmore
  · cases h

/-- One more member of an object is put with those before it and then the rest is read. -/
theorem ReadsDistinct.members_succ (ih : ReadsDistinct steps) {done ms : List (Units × Json)}
    (h : members room done (steps + 1) k = .ok (ms, k')) (hdone : (object done).Distinct) :
    (object ms).Distinct := by
  rw [members] at h
  obtain ⟨⟨key, k₁⟩, -, h⟩ := Except.bind_eq_ok_iff.mp h
  obtain ⟨-, h⟩ := Except.refuseIf_eq_ok_iff.mp h
  obtain ⟨⟨v, k₂⟩, hv, h⟩ := Except.bind_eq_ok_iff.mp h
  have hmore := hdone.insert (ih.of_value hv) key
  dsimp only at h
  split at h
  · cases h
    exact hmore
  · exact ih.of_members h hmore
  · cases h

/-- Whatever is read has different names everywhere: without a step left nothing is read. -/
theorem readsDistinct (steps : Nat) : ReadsDistinct steps := by
  induction steps with
  | zero =>
    constructor
    · intro room k j k' h
      rw [value] at h
      cases h
    · intro room done k vs k' h
      rw [items] at h
      cases h
    · intro room done k ms k' h
      rw [members] at h
      cases h
  | succ steps ih => exact ⟨ih.value_succ, ih.items_succ, ih.members_succ⟩

end Steps

/-- A value that is read from a text has different names everywhere. -/
theorem distinct_of_read {cs : List Char} {j : Json} (h : read cs = .ok j) : j.Distinct := by
  have hdocument : document cs = .ok j := by
    unfold read at h
    cases hd : document cs with
    | error halt => rw [hd] at h; cases h
    | ok j' => rw [hd] at h; cases h; rfl
  unfold document at hdocument
  obtain ⟨-, hdocument⟩ := Except.refuseIf_eq_ok_iff.mp hdocument
  obtain ⟨⟨v, k⟩, hvalue, hdocument⟩ := Except.bind_eq_ok_iff.mp hdocument
  dsimp only at hdocument
  split at hdocument
  · cases hdocument
    exact (readsDistinct _).of_value hvalue
  · cases hdocument

end Apake.Json
