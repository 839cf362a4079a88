import Apake.Proofs.Json.Token

/-!
# What is written is read back

A value is read back from its text if its numbers are whole and not too long, its objects have no
two members of a name, and it is not nested too deep.  The proof follows the value: the reader takes
in the text of a part and stops in front of what follows it.
-/

namespace Apake.Json

-- What holds of all characters of a text is decided along the text wherever this module is read.
attribute [local instance (2000)] List.decidableBAll

mutual

/-- Whether a value that may be nested so deep is read back from its text. -/
def Readable (room : Nat) : Json → Prop
  | null | bool _ | text _ => True
  | integer n => (Nat.toDigits 10 n.natAbs).length ≤ digitLimit
  | decimal _ => False
  | array vs => 0 < room ∧ ReadableItems (room - 1) vs
  | object ms => 0 < room ∧ (ms.map Prod.fst).Nodup ∧ ReadableMembers (room - 1) ms

/-- Whether all items are read back from their texts. -/
def ReadableItems (room : Nat) : List Json → Prop
  | [] => True
  | v :: vs => Readable room v ∧ ReadableItems room vs

/-- Whether all members are read back from their texts. -/
def ReadableMembers (room : Nat) : List (Units × Json) → Prop
  | [] => True
  | (_, v) :: ms => Readable room v ∧ ReadableMembers room ms

end

/-- Whether a text does not start with a blank. -/
def Starts (rest : List Char) : Prop := ∀ c ∈ rest.head?, isBlank c = false

/-- A text starts with its first character. -/
theorem starts_cons {c : Char} {cs : List Char} (hc : isBlank c = false) : Starts (c :: cs) := by
  rintro _ ⟨⟩
  exact hc

/-- Blanks are skipped up to a text that does not start with one. -/
theorem skipBlanks_append {index : Nat} (blanks : List Char) {rest : List Char}
    (hblanks : ∀ b ∈ blanks, isBlank b = true) (hrest : Starts rest) :
    Cursor.skipBlanks ⟨index, blanks ++ rest⟩ = ⟨index + blanks.length, rest⟩ := by
  have hnone : rest.takeWhile isBlank = [] := by
    cases rest with
    | nil => rfl
    | cons c cs => simp [hrest c rfl]
  have htake : (blanks ++ rest).takeWhile isBlank = blanks := by
    rw [List.takeWhile_append_of_pos hblanks, hnone, List.append_nil]
  unfold Cursor.skipBlanks Cursor.skip
  rw [htake, List.drop_left]

/-- Nothing is skipped in front of a text that does not start with a blank. -/
theorem Starts.skipBlanks {index : Nat} {rest : List Char} (hrest : Starts rest) :
    Cursor.skipBlanks ⟨index, rest⟩ = ⟨index, rest⟩ :=
  skipBlanks_append [] (List.forall_mem_nil _) hrest

/-- A layout puts nothing but blanks between tokens. -/
theorem isBlank_of_mem_newline {l : Layout} {c : Char} (h : c ∈ l.newline) : isBlank c = true := by
  cases l with
  | line => simp [Layout.newline] at h
  | lines level =>
    simp only [Layout.newline, List.mem_cons] at h
    rcases h with rfl | h
    · rfl
    · rw [List.eq_of_mem_replicate h]
      rfl

/-- A number ends in front of a separator. -/
theorem ends_separator (l : Layout) (rest : List Char) : Ends (l.separator ++ rest) := by
  cases l <;> rintro c ⟨⟩ <;> decide

/-- A number ends in front of the end of a list of items or members. -/
theorem ends_newline (l : Layout) {c : Char} (hc : c = ']' ∨ c = '\x7d') (rest : List Char) :
    Ends (l.newline ++ c :: rest) := by
  cases l with
  | line => rcases hc with rfl | rfl <;> rintro c ⟨⟩ <;> decide
  | lines level => rintro c ⟨⟩; decide

/-- A whole number starts with a digit, or with a sign and a digit. -/
theorem toString_eq_cons (n : Int) :
    ∃ c cs, (toString n).toList = c :: cs ∧
      (isDigit c = true ∨ c = '-' ∧ ∃ d ds, cs = d :: ds ∧ isDigit d = true) := by
  have hdigits (m : Nat) : ∃ d ds, Nat.toDigits 10 m = d :: ds ∧ isDigit d = true := by
    obtain ⟨d, ds, h⟩ := List.exists_cons_of_ne_nil (Nat.toDigits_ne_nil (n := m) (b := 10))
    exact ⟨d, ds, h, isDigit_of_mem (n := m) (h ▸ List.mem_cons_self ..)⟩
  cases n with
  | ofNat m =>
    obtain ⟨d, ds, h, hd⟩ := hdigits m
    exact ⟨d, ds, (toList_toString_ofNat m).trans h, .inl hd⟩
  | negSucc m =>
    obtain ⟨d, ds, h, hd⟩ := hdigits (m + 1)
    exact ⟨'-', d :: ds, by rw [toList_toString_negSucc, h], .inr ⟨rfl, d, ds, rfl, hd⟩⟩

/-- A digit is none of the characters with which other values start. -/
theorem ne_of_isDigit {c d : Char} (hc : isDigit c = true) (hd : isDigit d = false) : c ≠ d := by
  rintro rfl
  exact Bool.noConfusion (hc.symm.trans hd)

/-- No word that stands for a value has a digit among its first two characters. -/
theorem exists_letters_of_mem {p : List Char × Json} (h : p ∈ literals) :
    ∃ d e ds, p.1 = d :: e :: ds ∧ isDigit d = false ∧ isDigit e = false := by
  have hwords : ∀ p ∈ literals, ∃ d e ds, p.1 = d :: e :: ds ∧ isDigit d = false ∧
      isDigit e = false := by
    simp only [literals, List.forall_mem_cons]
    exact ⟨⟨_, _, _, rfl, rfl, rfl⟩, ⟨_, _, _, rfl, rfl, rfl⟩, ⟨_, _, _, rfl, rfl, rfl⟩,
      ⟨_, _, _, rfl, rfl, rfl⟩, ⟨_, _, _, rfl, rfl, rfl⟩, ⟨_, _, _, rfl, rfl, rfl⟩, nofun⟩
  exact hwords p h

/-- What starts like a number is read as one. -/
theorem value_of_number {room steps index : Nat} {c : Char} {cs : List Char}
    (h : isDigit c = true ∨ c = '-' ∧ ∃ d ds, cs = d :: ds ∧ isDigit d = true) :
    value room (steps + 1) ⟨index, c :: cs⟩ = number ⟨index, c :: cs⟩ := by
  have hliteral : literal? ⟨index, c :: cs⟩ = none := by
    refine List.findSome?_eq_none_iff.mpr fun p hp ↦ ?_
    obtain ⟨d, e, ds, hword, hd, he⟩ := exists_letters_of_mem hp
    have hne : ¬ p.1.isPrefixOf (c :: cs) = true := by
      rw [hword]
      rcases h with h | ⟨rfl, f, fs, rfl, hf⟩
      · simp [(ne_of_isDigit h hd).symm]
      · simp [(ne_of_isDigit hf he).symm]
    exact if_neg hne
  have hstart (d : Char) (hd : isDigit d = false) (hsign : d ≠ '-') : c ≠ d := by
    rcases h with h | ⟨rfl, -⟩
    · exact ne_of_isDigit h hd
    · exact hsign.symm
  unfold value
  split
  · next rest heq => exact absurd (List.cons.inj heq).1 (hstart '"' rfl (by decide))
  · next rest heq => exact absurd (List.cons.inj heq).1 (hstart '[' rfl (by decide))
  · next rest heq => exact absurd (List.cons.inj heq).1 (hstart '\x7b' rfl (by decide))
  · rw [hliteral]

/-- Between two parts the reader goes on at the second. -/
theorem skipBlanks_separator (l : Layout) (index : Nat) {rest : List Char} (hrest : Starts rest) :
    ∃ i tail, Cursor.skipBlanks ⟨index, l.separator ++ rest⟩ = ⟨index, ',' :: tail⟩ ∧
      (Cursor.skip ⟨index, ',' :: tail⟩ 1).skipBlanks = ⟨i, rest⟩ := by
  have hcomma (cs : List Char) : Starts (',' :: cs) := starts_cons (by decide)
  cases l with
  | line =>
    exact ⟨_, [' '] ++ rest, (hcomma _).skipBlanks, skipBlanks_append _ (by decide) hrest⟩
  | lines level =>
    exact ⟨_, (Layout.lines level).newline ++ rest, (hcomma _).skipBlanks,
      skipBlanks_append _ (fun _ ↦ isBlank_of_mem_newline) hrest⟩

/-- The text of a value starts with a character that is neither blank nor the end of a list. -/
theorem render_eq_cons (l : Layout) {room : Nat} {j : Json} (hj : j.Readable room) :
    ∃ c cs, render l j = c :: cs ∧ isBlank c = false ∧ c ≠ ']' := by
  cases j with
  | null => exact ⟨_, _, rfl, by decide⟩
  | bool b => cases b <;> exact ⟨_, _, rfl, by decide⟩
  | integer n =>
    obtain ⟨c, cs, htext, hc | ⟨rfl, -⟩⟩ := toString_eq_cons n
    · have hblank : isBlank c = false := by
        simp only [isBlank, Bool.or_eq_false_iff, decide_eq_false_iff_not]
        exact ⟨⟨⟨ne_of_isDigit hc rfl, ne_of_isDigit hc rfl⟩, ne_of_isDigit hc rfl⟩,
          ne_of_isDigit hc rfl⟩
      exact ⟨c, cs, htext, hblank, ne_of_isDigit hc rfl⟩
    · exact ⟨_, _, htext, by decide⟩
  | decimal x => exact absurd hj (by simp [Readable])
  | text us => exact ⟨_, _, rfl, by decide⟩
  | array vs => cases vs <;> exact ⟨_, _, rfl, by decide⟩
  | object ms => rcases ms with _ | ⟨⟨k, v⟩, ms⟩ <;> exact ⟨_, _, rfl, by decide⟩

/-- The text of a value does not start with a blank, nor like the end of a list. -/
theorem starts_render (l : Layout) {room : Nat} {j : Json} (hj : j.Readable room)
    (tail : List Char) :
    Starts (render l j ++ tail) ∧ (render l j ++ tail).head? ≠ some ']' := by
  obtain ⟨c, cs, htext, hc, hbracket⟩ := render_eq_cons l hj
  rw [htext]
  exact ⟨starts_cons hc, by simpa using hbracket⟩

/-- A quoted text does not start with a blank. -/
theorem starts_quote (us : Units) (tail : List Char) : Starts (quote us ++ tail) :=
  starts_cons (by decide)

/-- An item in front of the closing bracket is the last one. -/
theorem items_last {room steps i : Nat} {done : List Json} {k k' : Cursor} {v : Json}
    {rest : List Char} (hvalue : value room steps k = .ok (v, k'))
    (hblanks : k'.skipBlanks = ⟨i, ']' :: rest⟩) :
    items room done (steps + 1) k = .ok ((v :: done).reverse, ⟨i + 1, rest⟩) := by
  rw [items, hvalue]
  simp [bind, Except.bind, hblanks, pure, Except.pure, Cursor.skip]

/-- An item in front of a comma is followed by the next one. -/
theorem items_next {room steps i : Nat} {done : List Json} {k k' : Cursor} {v : Json}
    {rest : List Char} (hvalue : value room steps k = .ok (v, k'))
    (hblanks : k'.skipBlanks = ⟨i, ',' :: rest⟩) :
    items room done (steps + 1) k =
      items room (v :: done) steps (Cursor.skip ⟨i, ',' :: rest⟩ 1).skipBlanks := by
  rw [items, hvalue]
  simp [bind, Except.bind, hblanks]

/-- Behind an opening character nothing but the layout is skipped. -/
theorem skipBlanks_opening (l : Layout) (index : Nat) (c : Char) {rest : List Char}
    (hrest : Starts rest) :
    (Cursor.skip ⟨index, c :: (l.newline ++ rest)⟩ 1).skipBlanks =
      ⟨index + 1 + l.newline.length, rest⟩ :=
  skipBlanks_append _ (fun _ ↦ isBlank_of_mem_newline) hrest

/-- In front of a closing character nothing but the layout is skipped. -/
theorem skipBlanks_closing (l : Layout) (index : Nat) {c : Char} (hc : isBlank c = false)
    (rest : List Char) :
    Cursor.skipBlanks ⟨index, l.newline ++ c :: rest⟩ = ⟨index + l.newline.length, c :: rest⟩ :=
  skipBlanks_append _ (fun _ ↦ isBlank_of_mem_newline) (starts_cons hc)

/-- A quoted text is read as a value. -/
theorem value_of_name {room steps index : Nat} {us : Units} {cs : List Char} {k : Cursor}
    (h : name ⟨index, '"' :: cs⟩ = .ok (us, k)) :
    value room (steps + 1) ⟨index, '"' :: cs⟩ = .ok (text us, k) := by
  have hquoted : quoted index [] (index + 1) cs = .ok (us, k) := h
  rw [value]
  show (quoted index [] (index + 1) cs).map (fun p ↦ (text p.1, p.2)) = _
  rw [hquoted]
  rfl

/-- Items in brackets are read as a value. -/
theorem value_of_items {room steps index : Nat} {vs : List Json} {cs : List Char} {k k' : Cursor}
    (hroom : 0 < room) (hopening : (Cursor.skip ⟨index, '[' :: cs⟩ 1).skipBlanks = k)
    (hhead : k.rest.head? ≠ some ']') (h : items (room - 1) [] steps k = .ok (vs, k')) :
    value room (steps + 1) ⟨index, '[' :: cs⟩ = .ok (array vs, k') := by
  rw [value, hopening]
  refine (if_neg (Nat.ne_of_gt hroom)).trans ?_
  rw [if_neg hhead, h]
  rfl

/-- Members in braces are read as a value. -/
theorem value_of_members {room steps index : Nat} {ms : List (Units × Json)} {cs : List Char}
    {k k' : Cursor} (hroom : 0 < room)
    (hopening : (Cursor.skip ⟨index, '\x7b' :: cs⟩ 1).skipBlanks = k)
    (hhead : k.rest.head? ≠ some '\x7d') (h : members (room - 1) [] steps k = .ok (ms, k')) :
    value room (steps + 1) ⟨index, '\x7b' :: cs⟩ = .ok (object ms, k') := by
  rw [value, hopening]
  refine (if_neg (Nat.ne_of_gt hroom)).trans ?_
  rw [if_neg hhead, h]
  rfl

/-- A member is put behind those of other names. -/
theorem insert_of_not_mem {α : Type} {key : Units} {v : α} {ms : List (Units × α)}
    (h : key ∉ ms.map Prod.fst) : insert key v ms = ms ++ [(key, v)] := by
  induction ms with
  | nil => rfl
  | cons m ms ih =>
    simp only [List.map_cons, List.mem_cons, not_or] at h
    rw [insert, if_neg (Ne.symm h.1), ih h.2, List.cons_append]

/-- The name of a member differs from those before it. -/
theorem not_mem_of_nodup {done ms : List (Units × Json)} {key : Units} {v : Json}
    (h : ((done ++ (key, v) :: ms).map Prod.fst).Nodup) : key ∉ done.map Prod.fst := by
  rw [List.map_append, List.map_cons, List.nodup_append] at h
  exact fun hmem ↦ h.2.2 _ hmem _ (List.mem_cons_self ..) rfl

/-- A member is read back from its name and its value, and what follows it tells how to go on. -/
theorem members_step (l : Layout) {room steps index : Nat} {done : List (Units × Json)} {k : Cursor}
    {key : Units} {v : Json} {tail : List Char} (hv : v.Readable room)
    (hfresh : key ∉ done.map Prod.fst)
    (hvalue : value room steps ⟨index + (quote key).length + 2, render l v ++ tail⟩ = .ok (v, k)) :
    members room done (steps + 1) ⟨index, quote key ++ ':' :: ' ' :: (render l v ++ tail)⟩ =
      match k.skipBlanks.rest with
      | '\x7d' :: _ => .ok (done ++ [(key, v)], k.skipBlanks.skip 1)
      | ',' :: _ => members room (done ++ [(key, v)]) steps (k.skipBlanks.skip 1).skipBlanks
      | _ => .error (.fault .noComma k.skipBlanks.index) := by
  have hcolon : Starts (':' :: ' ' :: (render l v ++ tail)) := starts_cons (by decide)
  have hblank : (Cursor.skip ⟨index + (quote key).length, ':' :: ' ' :: (render l v ++ tail)⟩
      1).skipBlanks = ⟨index + (quote key).length + 2, render l v ++ tail⟩ :=
    skipBlanks_append [' '] (by decide) (starts_render l hv tail).1
  rw [members, name_quote]
  simp only [bind, Except.bind, hcolon.skipBlanks, List.head?_cons, ne_eq, not_true_eq_false,
    if_false, hblank, hvalue, insert_of_not_mem hfresh]
  rfl

/-- Something stands between two parts. -/
theorem Layout.length_separator_pos (l : Layout) : 0 < l.separator.length := by
  cases l <;> simp [separator]

-- The induction is on the value, in step with the reader.  Its steps run out only where a text is
-- left that is longer than half of them: a list and each of its parts take one step and at least one
-- character, and the bound leaves two steps for each character.
mutual

/-- A value is read back from its text, wherever the text stands. -/
theorem value_render (l : Layout) {room : Nat} (steps index : Nat) {rest : List Char}
    (hrest : Ends rest) : (j : Json) → j.Readable room → 2 * (render l j).length ≤ steps + 1 →
    ∃ i, value room (steps + 1) ⟨index, render l j ++ rest⟩ = .ok (j, ⟨i, rest⟩)
  | null, _, _ => ⟨_, rfl⟩
  | bool true, _, _ => ⟨_, rfl⟩
  | bool false, _, _ => ⟨_, rfl⟩
  | integer n, hj, _ => by
    obtain ⟨c, cs, htext, hc⟩ := toString_eq_cons n
    have hnumber := number_toString index hrest hj
    rw [htext, List.cons_append] at hnumber
    refine ⟨_, Eq.trans ?_ hnumber⟩
    show value room (steps + 1) ⟨index, (toString n).toList ++ rest⟩ = _
    rw [htext, List.cons_append]
    refine value_of_number (hc.imp_right fun ⟨hsign, d, ds, hcs, hd⟩ ↦ ?_)
    exact ⟨hsign, d, ds ++ rest, by rw [hcs]; rfl, hd⟩
  | text us, _, _ => ⟨_, value_of_name (name_quote index us rest)⟩
  | array [], hj, _ => by
    have hroom : ¬ room = 0 := Nat.ne_of_gt hj.1
    refine ⟨index + 1 + 1, ?_⟩
    show value room (steps + 1) ⟨index, '[' :: ']' :: rest⟩ = _
    rw [value]
    simp [Cursor.skip, (starts_cons (show isBlank ']' = false by decide)).skipBlanks, hroom]
  | array (v :: vs), hj, hsteps => by
    obtain ⟨hroom, hv, hvs⟩ := hj
    obtain ⟨hstarts, hbracket⟩ := starts_render l.inner hv
      (renderItems l.inner vs ++ (l.newline ++ ']' :: rest))
    simp only [render, List.length_append, List.length_cons, List.length_nil] at hsteps
    obtain ⟨steps, rfl⟩ : ∃ n, steps = n + 2 := ⟨steps - 2, by omega⟩
    obtain ⟨i, hitems⟩ := items_render l.inner l steps
      (index + 1 + l.inner.newline.length) [] rest v vs hv hvs (by omega)
    have hsplit : render l (array (v :: vs)) ++ rest = '[' :: (l.inner.newline ++
        (render l.inner v ++ (renderItems l.inner vs ++ (l.newline ++ ']' :: rest)))) := by
      simp [render]
    rw [hsplit]
    exact ⟨i, value_of_items hroom (skipBlanks_opening l.inner index '[' hstarts) hbracket hitems⟩
  | object [], hj, _ => by
    have hroom : ¬ room = 0 := Nat.ne_of_gt hj.1
    refine ⟨index + 1 + 1, ?_⟩
    show value room (steps + 1) ⟨index, '\x7b' :: '\x7d' :: rest⟩ = _
    rw [value]
    simp [Cursor.skip, (starts_cons (show isBlank '\x7d' = false by decide)).skipBlanks, hroom]
  | object ((key, v) :: ms), hj, hsteps => by
    obtain ⟨hroom, hnodup, hv, hms⟩ := hj
    simp only [render, List.length_append, List.length_cons, List.length_nil] at hsteps
    obtain ⟨steps, rfl⟩ : ∃ n, steps = n + 2 := ⟨steps - 2, by omega⟩
    obtain ⟨i, hmembers⟩ := members_render l.inner l steps
      (index + 1 + l.inner.newline.length) [] rest key v ms hv hms hnodup (by omega)
    have hsplit : render l (object ((key, v) :: ms)) ++ rest = '\x7b' :: (l.inner.newline ++
        (quote key ++ ':' :: ' ' :: (render l.inner v ++ (renderMembers l.inner ms ++
          (l.newline ++ '\x7d' :: rest))))) := by
      simp [render]
    rw [hsplit]
    exact ⟨i, value_of_members hroom (skipBlanks_opening l.inner index '\x7b' (starts_quote key _))
      nofun hmembers⟩
termination_by j => sizeOf j

/-- Items are read back from their texts up to the closing bracket. -/
theorem items_render (l o : Layout) {room : Nat} (steps index : Nat) (done : List Json)
    (rest : List Char) (v : Json) : (vs : List Json) → v.Readable room → ReadableItems room vs →
    2 * ((render l v).length + (renderItems l vs).length) ≤ steps + 1 →
    ∃ i, items room done (steps + 2)
        ⟨index, render l v ++ (renderItems l vs ++ (o.newline ++ ']' :: rest))⟩ =
      .ok (done.reverse ++ v :: vs, ⟨i, rest⟩)
  | [], hv, _, hsteps => by
    obtain ⟨i, hvalue⟩ := value_render l steps index
      (ends_newline o (.inl rfl) rest) v hv (by omega)
    have hblanks := skipBlanks_closing o i (c := ']') (by decide) rest
    exact ⟨_, (items_last hvalue hblanks).trans (by rw [List.reverse_cons])⟩
  | w :: ws, hv, ⟨hw, hws⟩, hsteps => by
    have hlength : (renderItems l (w :: ws)).length =
        l.separator.length + (render l w).length + (renderItems l ws).length := by
      simp [renderItems, Nat.add_assoc]
    have hsplit : renderItems l (w :: ws) ++ (o.newline ++ ']' :: rest) =
        l.separator ++ (render l w ++ (renderItems l ws ++ (o.newline ++ ']' :: rest))) := by
      simp [renderItems]
    have hseparator := l.length_separator_pos
    obtain ⟨steps, rfl⟩ : ∃ n, steps = n + 1 := ⟨steps - 1, by omega⟩
    obtain ⟨i, hvalue⟩ := value_render l (steps + 1) index (ends_separator l _) v hv
      (by omega)
    obtain ⟨i', tail, hcomma, hblanks⟩ := skipBlanks_separator l i
      (starts_render l hw (renderItems l ws ++ (o.newline ++ ']' :: rest))).1
    obtain ⟨i'', hitems⟩ := items_render l o steps i' (v :: done) rest w ws hw hws
      (by omega)
    refine ⟨i'', ?_⟩
    rw [hsplit, items_next hvalue hcomma, hblanks, hitems, List.reverse_cons, List.append_assoc,
      List.singleton_append]
termination_by vs => 1 + sizeOf v + sizeOf vs

/-- Members are read back from their texts up to the closing brace. -/
theorem members_render (l o : Layout) {room : Nat} (steps index : Nat)
    (done : List (Units × Json)) (rest : List Char) (key : Units) (v : Json) :
    (ms : List (Units × Json)) → v.Readable room → ReadableMembers room ms →
    ((done ++ (key, v) :: ms).map Prod.fst).Nodup →
    2 * ((render l v).length + (renderMembers l ms).length) ≤ steps + 1 →
    ∃ i, members room done (steps + 2) ⟨index, quote key ++ ':' :: ' ' :: (render l v ++
        (renderMembers l ms ++ (o.newline ++ '\x7d' :: rest)))⟩ =
      .ok (done ++ (key, v) :: ms, ⟨i, rest⟩)
  | [], hv, _, hnodup, hsteps => by
    obtain ⟨i, hvalue⟩ := value_render l steps (index + (quote key).length + 2)
      (ends_newline o (.inr rfl) rest) v hv (by omega)
    have hblanks := skipBlanks_closing o i (c := '\x7d') (by decide) rest
    refine ⟨i + o.newline.length + 1, (members_step l hv (not_mem_of_nodup hnodup) hvalue).trans ?_⟩
    rw [hblanks]
    rfl
  | (key', w) :: ms, hv, ⟨hw, hms⟩, hnodup, hsteps => by
    have hlength : (renderMembers l ((key', w) :: ms)).length = l.separator.length +
        (quote key').length + 2 + (render l w).length + (renderMembers l ms).length := by
      simp [renderMembers]
      omega
    have hsplit : renderMembers l ((key', w) :: ms) ++ (o.newline ++ '\x7d' :: rest) =
        l.separator ++ (quote key' ++ ':' :: ' ' :: (render l w ++ (renderMembers l ms ++
          (o.newline ++ '\x7d' :: rest)))) := by
      simp [renderMembers]
    obtain ⟨steps, rfl⟩ : ∃ n, steps = n + 1 := ⟨steps - 1, by omega⟩
    obtain ⟨i, hvalue⟩ := value_render l (steps + 1) (index + (quote key).length + 2)
      (ends_separator l _) v hv (by omega)
    obtain ⟨i', tail, hcomma, hblanks⟩ := skipBlanks_separator l i (starts_quote key' _)
    have hlater : ((done ++ [(key, v)] ++ (key', w) :: ms).map Prod.fst).Nodup := by
      rwa [List.append_assoc, List.singleton_append]
    obtain ⟨i'', hmembers⟩ := members_render l o steps i' (done ++ [(key, v)]) rest key' w
      ms hw hms hlater (by omega)
    refine ⟨i'', ?_⟩
    rw [hsplit, members_step l hv (not_mem_of_nodup hnodup) hvalue, hcomma]
    dsimp only
    rw [hblanks, hmembers, List.append_assoc, List.singleton_append]
    rfl
termination_by ms => 1 + sizeOf v + sizeOf ms

end

/-- Whether a character is a line feed or printable ASCII. -/
def isPrinted (c : Char) : Bool := c = '\n' || 32 ≤ c.toNat && c.toNat < 127

/-- A unit is printed between quotes. -/
theorem isPrinted_escape (u : UInt16) : ∀ c ∈ escape u, isPrinted c = true := by
  have hhex (n : Nat) : isPrinted (hexDigit n) = true := by
    have htable : ∀ d < 16, isPrinted (Nat.digitChar d) = true := by decide
    exact htable _ (Nat.mod_lt n (by decide))
  unfold escape
  dsimp only
  iterate 7
    split
    · decide
  split
  · next h =>
    have hascii : ∀ n < 127, 32 ≤ n → isPrinted (Char.ofNat n) = true := by decide
    intro c hc
    rw [List.mem_singleton.mp hc]
    exact hascii _ (by omega) h.1
  · simp only [List.forall_mem_cons, hhex]
    exact ⟨by decide, by decide, trivial, trivial, trivial, trivial, List.forall_mem_nil _⟩

/-- A quoted text is printed. -/
theorem isPrinted_quote (us : Units) : ∀ c ∈ quote us, isPrinted c = true := by
  simp only [quote, List.forall_mem_append, List.forall_mem_cons, List.forall_mem_flatMap]
  exact ⟨⟨by decide, fun u _ ↦ isPrinted_escape u⟩, by decide, List.forall_mem_nil _⟩

/-- A whole number is printed. -/
theorem isPrinted_toString (n : Int) : ∀ c ∈ (toString n).toList, isPrinted c = true := by
  have hdigit {m : Nat} {c : Char} (hc : c ∈ Nat.toDigits 10 m) : isPrinted c = true := by
    have h := isDigit_of_mem hc
    simp only [isDigit, Bool.and_eq_true, decide_eq_true_eq] at h
    simp only [isPrinted, Bool.or_eq_true, Bool.and_eq_true, decide_eq_true_eq]
    omega
  cases n with
  | ofNat m =>
    rw [toList_toString_ofNat]
    exact fun c hc ↦ hdigit hc
  | negSucc m =>
    rw [toList_toString_negSucc, List.forall_mem_cons]
    exact ⟨by decide, fun c hc ↦ hdigit hc⟩

/-- A layout prints what it puts between tokens. -/
theorem Layout.isPrinted (l : Layout) :
    (∀ c ∈ l.newline, isPrinted c = true) ∧ ∀ c ∈ l.separator, Json.isPrinted c = true := by
  cases l with
  | line => exact ⟨List.forall_mem_nil _, by decide⟩
  | lines level =>
    have hnewline : ∀ c ∈ (lines level).newline, Json.isPrinted c = true := by
      simp only [newline, List.forall_mem_cons]
      refine ⟨by decide, fun c hc ↦ ?_⟩
      rw [List.eq_of_mem_replicate hc]
      rfl
    exact ⟨hnewline, List.forall_mem_cons.mpr ⟨by decide, hnewline⟩⟩

mutual

/-- The text of a value is printed. -/
theorem isPrinted_render (l : Layout) {room : Nat} :
    (j : Json) → j.Readable room → ∀ c ∈ render l j, isPrinted c = true
  | null, _ => show ∀ c ∈ "null".toList, isPrinted c = true by decide
  | bool true, _ => show ∀ c ∈ "true".toList, isPrinted c = true by decide
  | bool false, _ => show ∀ c ∈ "false".toList, isPrinted c = true by decide
  | integer n, _ => isPrinted_toString n
  | text us, _ => isPrinted_quote us
  | array [], _ => show ∀ c ∈ ['[', ']'], isPrinted c = true by decide
  | array (v :: vs), hj => by
    have hv := isPrinted_render l.inner v hj.2.1
    have hvs := isPrinted_renderItems l.inner vs hj.2.2
    simp only [render, List.forall_mem_append, List.forall_mem_cons]
    exact ⟨⟨⟨⟨⟨by decide, l.inner.isPrinted.1⟩, hv⟩, hvs⟩, l.isPrinted.1⟩, by decide,
      List.forall_mem_nil _⟩
  | object [], _ => show ∀ c ∈ ['\x7b', '\x7d'], isPrinted c = true by decide
  | object ((key, v) :: ms), hj => by
    have hv := isPrinted_render l.inner v hj.2.2.1
    have hms := isPrinted_renderMembers l.inner ms hj.2.2.2
    simp only [render, List.forall_mem_append, List.forall_mem_cons]
    exact ⟨⟨⟨⟨⟨⟨⟨by decide, l.inner.isPrinted.1⟩, isPrinted_quote key⟩, by decide⟩, hv⟩, hms⟩,
      l.isPrinted.1⟩, by decide, List.forall_mem_nil _⟩
termination_by j => sizeOf j

/-- The texts of items are printed. -/
theorem isPrinted_renderItems (l : Layout) {room : Nat} :
    (vs : List Json) → ReadableItems room vs → ∀ c ∈ renderItems l vs, isPrinted c = true
  | [], _ => List.forall_mem_nil _
  | v :: vs, h => by
    have hv := isPrinted_render l v h.1
    have hvs := isPrinted_renderItems l vs h.2
    simp only [renderItems, List.forall_mem_append]
    exact ⟨⟨l.isPrinted.2, hv⟩, hvs⟩
termination_by vs => sizeOf vs

/-- The texts of members are printed. -/
theorem isPrinted_renderMembers (l : Layout) {room : Nat} : (ms : List (Units × Json)) →
    ReadableMembers room ms → ∀ c ∈ renderMembers l ms, isPrinted c = true
  | [], _ => List.forall_mem_nil _
  | (key, v) :: ms, h => by
    have hv := isPrinted_render l v h.1
    have hms := isPrinted_renderMembers l ms h.2
    simp only [renderMembers, List.forall_mem_append]
    exact ⟨⟨⟨⟨l.isPrinted.2, isPrinted_quote key⟩, by decide⟩, hv⟩, hms⟩
termination_by ms => sizeOf ms

end

/-- The text of a value is read back. -/
theorem read_render (l : Layout) {j : Json} (hj : j.Readable depthLimit) :
    read (render l j) = .ok j := by
  obtain ⟨hstarts, -⟩ := starts_render l hj []
  have hends : Ends [] := nofun
  obtain ⟨i, hvalue⟩ := value_render l (2 * (render l j).length) 0 hends j hj (by omega)
  rw [List.append_nil] at hstarts hvalue
  have hmark : (render l j).head? ≠ some '\uFEFF' := by
    intro hhead
    have hprinted := isPrinted_render l j hj _ (List.mem_of_head? hhead)
    exact absurd hprinted (by decide)
  unfold read document
  rw [if_neg hmark, hstarts.skipBlanks, hvalue]
  rfl

end Apake.Json
