import Apake.Console.Markup
import Apake.Proofs.Random.Supply

/-!
# Which marked-up texts can be shown

Whether a text can be shown depends on its tags alone: plain text between the tags is never refused,
and no style is looked at but those that tags open or close.
-/

namespace Apake

namespace Style

/-- A single word in small letters that is a name. -/
structure IsName (cs : List Char) : Prop where
  words_eq : words cs = [cs]
  lower_eq : Text.lower cs = cs
  strip_eq : Text.stripEnd (cs.dropWhile Text.isBlank) = cs
  not_keyword : ∀ keyword ∈ ["on", "not", "link", "none"], String.ofList cs ≠ keyword
  not_hash : cs.head? ≠ some '#'
  not_color : arguments? "color" cs = none
  not_rgb : arguments? "rgb" cs = none

variable {cs : List Char}

/-- A name stands for a colour exactly if there is one of that name. -/
theorem IsName.isColour (h : IsName cs) : isColour cs = .ok (isColourName (String.ofList cs)) := by
  unfold Style.isColour
  split
  · next hcolour => rw [hcolour]
  · next hcolour =>
    rw [Bool.not_eq_true] at hcolour
    rw [hcolour, h.not_color, h.not_rgb]
    split
    · exact absurd rfl h.not_hash
    · rfl

/-- A name describes its attribute or its colour, or nothing where there is neither. -/
theorem IsName.ofText? (h : IsName cs) :
    ofText? cs = .ok (match attribute? (String.ofList cs) with
      | some name => some { attributes := [(name, true)] }
      | none => if isColourName (String.ofList cs) then some { colour := some cs } else none) := by
  have hkeyword := h.not_keyword
  simp only [List.forall_mem_cons] at hkeyword
  obtain ⟨hon, hnot, hlink, hnone, -⟩ := hkeyword
  have hnone' : [cs] ≠ ["none".toList] := by
    intro heq
    rw [(List.cons.inj heq).1, String.ofList_toList] at hnone
    exact hnone rfl
  unfold Style.ofText?
  rw [h.words_eq, if_neg hnone']
  unfold describe?
  rw [h.lower_eq]
  dsimp only
  split
  · next heq _ => exact absurd heq hon
  · next heq _ => exact absurd heq hnot
  · next heq _ => exact absurd heq hlink
  · next heq _ => exact absurd heq hon
  · next heq _ => exact absurd heq hnot
  · next heq _ => exact absurd heq hlink
  · rw [h.isColour]
    cases attribute? (String.ofList cs) with
    | some name => rfl
    | none => cases isColourName (String.ofList cs) <;> rfl

/-- The name of an attribute is its own one form. -/
theorem IsName.normal_of_attribute (h : IsName cs) {name : String}
    (hattribute : attribute? (String.ofList cs) = some name)
    (hwords : Description.words { attributes := [(name, true)] } = [cs]) : normal cs = .ok cs := by
  unfold normal
  rw [h.ofText?, hattribute]
  show Except.ok (if (Description.words _).isEmpty then _ else _) = _
  rw [hwords]
  exact congrArg Except.ok (List.append_nil cs)

/-- Another name is its own one form, whether there is a colour of that name or not. -/
theorem IsName.normal (h : IsName cs) (hattribute : attribute? (String.ofList cs) = none) :
    normal cs = .ok cs := by
  unfold Style.normal
  rw [h.ofText?, hattribute]
  cases isColourName (String.ofList cs) with
  | true => exact congrArg Except.ok (List.append_nil cs)
  | false =>
    show Except.ok (Text.lower (Text.stripEnd (cs.dropWhile Text.isBlank))) = _
    rw [h.strip_eq, h.lower_eq]

end Style

namespace Markup

/-- Whether a piece is a tag. -/
def Piece.isTag : Piece → Bool
  | plain _ => false
  | opening _ | closing _ => true

/-- Whether a text holds nothing that a tag could start with. -/
def IsPlain (cs : List Char) : Prop := ∀ c ∈ cs, c ≠ '\\' ∧ c ≠ '['

instance (cs : List Char) : Decidable (IsPlain cs) := List.decidableBAll _ cs

/-- The tags of a text. -/
def tagsIn (cs : List Char) : List Piece := (pieces (cs.length + 1) [] cs).filter Piece.isTag

/-- What a sheet has besides its text: the open tags and the styles of text. -/
def Sheet.marks (s : Sheet) : List Tag × List (List Char) := (s.stack, s.styles)

/-- Whether there are styles of all descriptions that text has. -/
def checkStyles (marks : List Tag × List (List Char)) : Except Error Unit :=
  (marks.2 ++ marks.1.map Tag.style).forM fun style ↦ do
    let _ ← Style.ofText? style

/-- What follows a tag is shorter than what the tag stands in. -/
theorem length_of_tag? {cs tag rest : List Char} (h : tag? cs = some (tag, rest)) :
    rest.length < cs.length := by
  cases cs with
  | nil => cases h
  | cons c cs =>
    rw [tag?] at h
    split at h
    · dsimp only at h
      split at h
      · next rest' hrest =>
        cases h
        have hlength := (List.dropWhile_sublist (fun c ↦ c ≠ '[' && c ≠ ']') (l := cs)).length_le
        simp only [hrest, List.length_cons] at hlength ⊢
        omega
      · cases h
    · cases h

/-- Plain text is no tag. -/
theorem filter_isTag_plain (text : List Char) (ps : List Piece) :
    (.plain text :: ps).filter Piece.isTag = ps.filter Piece.isTag := rfl

/-- The tags of a text depend neither on the plain text before it nor on the steps that are left. -/
theorem filter_isTag_pieces {n m : Nat} {before before' cs : List Char} (hn : cs.length < n)
    (hm : cs.length < m) :
    (pieces n before cs).filter Piece.isTag = (pieces m before' cs).filter Piece.isTag := by
  -- A piece takes at least one character, so neither count of steps runs out before the text does.
  induction n generalizing m before before' cs with
  | zero => omega
  | succ n ih =>
    obtain ⟨m, rfl⟩ : ∃ k, m = k + 1 := ⟨m - 1, by omega⟩
    have hlength := (List.dropWhile_sublist (fun c ↦ decide (c = '\\')) (l := cs)).length_le
    rw [pieces, pieces]
    dsimp only
    split
    · next rest hrest =>
      rw [hrest, List.length_cons] at hlength
      split
      · next tag rest' htag =>
        have hshorter := length_of_tag? htag
        have hrest : (pieces n [] rest').filter Piece.isTag =
            (pieces m [] rest').filter Piece.isTag := ih (by omega) (by omega)
        rw [filter_isTag_plain, filter_isTag_plain, filter_isTag_plain, filter_isTag_plain,
          List.filter_cons, List.filter_cons, hrest]
      · exact ih (by omega) (by omega)
    · next c rest _ hrest =>
      rw [hrest, List.length_cons] at hlength
      exact ih (by omega) (by omega)
    · rfl

/-- Plain text in front of a text adds no tags. -/
theorem tagsIn_append {cs : List Char} (h : IsPlain cs) (rest : List Char) :
    tagsIn (cs ++ rest) = tagsIn rest := by
  induction cs with
  | nil => rfl
  | cons c cs ih =>
    obtain ⟨⟨hslash, hbracket⟩, hcs⟩ := List.forall_mem_cons.mp h
    rw [← ih hcs]
    unfold tagsIn
    rw [List.cons_append, pieces]
    simp only [List.takeWhile_cons, List.dropWhile_cons, hslash, decide_false, Bool.false_eq_true,
      if_false]
    exact filter_isTag_pieces (by simp) (by simp)

/-- A tag in front of a text is its first tag. -/
theorem tagsIn_tag {tag : List Char} (hstarts : tag.head?.any startsTag = true)
    (hinside : ∀ c ∈ tag, c ≠ '[' ∧ c ≠ ']') (rest : List Char) :
    tagsIn ('[' :: (tag ++ ']' :: rest)) = [Piece.ofTag tag].filter Piece.isTag ++ tagsIn rest := by
  have htag : tag? (tag ++ ']' :: rest) = some (tag, rest) := by
    cases tag with
    | nil => cases hstarts
    | cons c cs =>
      have hcs (d : Char) (hd : d ∈ cs) : (d ≠ '[' && d ≠ ']') = true := by
        simpa using hinside d (List.mem_cons_of_mem c hd)
      have hc : startsTag c = true := hstarts
      rw [List.cons_append, tag?, if_pos hc]
      dsimp only
      rw [List.dropWhile_append_of_pos hcs, List.takeWhile_append_of_pos hcs]
      simp
  unfold tagsIn
  rw [pieces]
  simp only [List.takeWhile_cons, List.dropWhile_cons, show ¬ '[' = '\\' by decide, decide_false,
    Bool.false_eq_true, if_false]
  rw [htag]
  have hrest : (pieces ('[' :: (tag ++ ']' :: rest)).length [] rest).filter Piece.isTag =
      (pieces (rest.length + 1) [] rest).filter Piece.isTag :=
    filter_isTag_pieces (by simp; omega) (Nat.lt_succ_self _)
  rw [filter_isTag_plain, filter_isTag_plain, ← hrest, ← List.filter_append]
  rfl

/-- What a piece does to the tags and styles of a sheet does not depend on the text of the sheet. -/
theorem marks_add {s s' : Sheet} (h : s.marks = s'.marks) (p : Piece) :
    (s.add p).map Sheet.marks = (s'.add p).map Sheet.marks := by
  obtain ⟨text, stack, styles⟩ := s
  obtain ⟨text', stack', styles'⟩ := s'
  obtain ⟨rfl, rfl⟩ : stack = stack' ∧ styles = styles' := Prod.mk.inj h
  have hbind {α : Type} (x : Except Error α) {f g : α → Except Error Sheet}
      (hfg : ∀ a, (f a).map Sheet.marks = (g a).map Sheet.marks) :
      (x >>= f).map Sheet.marks = (x >>= g).map Sheet.marks := by
    cases x with
    | error e => rfl
    | ok a => exact hfg a
  cases p with
  | plain text => rfl
  | opening tag => exact hbind _ fun name ↦ rfl
  | closing name =>
    simp only [Sheet.add]
    split
    all_goals
      refine hbind _ fun name ↦ ?_
      split
      · rfl
      · split
        · exact hbind _ fun _ ↦ rfl
        · rfl

/-- The tags and styles of a sheet come from the tags of the text alone. -/
theorem marks_foldlM {s s' : Sheet} (h : s.marks = s'.marks) (ps : List Piece) :
    (ps.foldlM Sheet.add s).map Sheet.marks =
      ((ps.filter Piece.isTag).foldlM Sheet.add s').map Sheet.marks := by
  induction ps generalizing s s' with
  | nil => exact congrArg Except.ok h
  | cons p ps ih =>
    cases hp : p.isTag with
    | false =>
      rw [List.filter_cons_of_neg (by simp [hp])]
      cases p with
      | plain text => exact ih h
      | _ => cases hp
    | true =>
      rw [List.filter_cons_of_pos hp, List.foldlM_cons, List.foldlM_cons]
      have hadd := marks_add h p
      cases hs : s.add p with
      | error e =>
        cases hs' : s'.add p with
        | error e' =>
          rw [hs, hs'] at hadd
          cases hadd
          rfl
        | ok t' =>
          rw [hs, hs'] at hadd
          cases hadd
      | ok t =>
        cases hs' : s'.add p with
        | error e' =>
          rw [hs, hs'] at hadd
          cases hadd
        | ok t' =>
          rw [hs, hs'] at hadd
          exact ih (Except.ok.inj hadd)

/-- A text can be shown exactly if its tags are well nested and all styles are known. -/
theorem exists_plain_iff {text : String} :
    (∃ cs, plain text = .ok cs) ↔
      ∃ marks, ((tagsIn text.toList).foldlM Sheet.add {}).map Sheet.marks = .ok marks ∧
        checkStyles marks = .ok () := by
  rw [tagsIn, ← marks_foldlM rfl, String.length_toList]
  unfold plain
  constructor
  · rintro ⟨cs, h⟩
    obtain ⟨s, hs, h⟩ := Except.bind_eq_ok_iff.mp h
    obtain ⟨_, hcheck, -⟩ := Except.bind_eq_ok_iff.mp h
    exact ⟨s.marks, by rw [hs]; rfl, hcheck⟩
  · rintro ⟨marks, h, hcheck⟩
    cases hs : (pieces (text.length + 1) [] text.toList).foldlM Sheet.add {} with
    | error e =>
      rw [hs] at h
      cases h
    | ok s =>
      rw [hs] at h
      cases h
      exact ⟨_, Except.bind_of_ok rfl (Except.bind_of_ok hcheck rfl)⟩

/-- Of two texts with the same tags, either both can be shown or neither. -/
theorem exists_plain_congr {text text' : String}
    (h : tagsIn text.toList = tagsIn text'.toList) :
    (∃ cs, plain text = .ok cs) ↔ ∃ cs, plain text' = .ok cs := by
  rw [exists_plain_iff, exists_plain_iff, h]

/-- A name whose tags open and close a style that there is. -/
structure IsStyle (name : List Char) : Prop where
  opens : Piece.ofTag name = .opening ⟨name, none⟩
  closes : Piece.ofTag ('/' :: name) = .closing name
  starts : name.head?.any startsTag = true
  inside : ∀ c ∈ name, c ≠ '[' ∧ c ≠ ']'
  plain : name.head? ≠ some '@'
  normal : Style.normal name = .ok name
  described : ∃ d, Style.ofText? name = .ok d

namespace IsStyle

variable {name : List Char}

/-- The first tags of a text in a style are those of the style. -/
theorem tagsIn_eq (h : IsStyle name) {opening closing before text : String}
    (hopening : opening.toList = '[' :: name ++ [']'])
    (hclosing : closing.toList = '[' :: '/' :: name ++ [']']) (hbefore : IsPlain before.toList)
    (htext : IsPlain text.toList) (after : String) :
    tagsIn (before ++ opening ++ text ++ closing ++ after).toList =
      .opening ⟨name, none⟩ :: .closing name :: tagsIn after.toList := by
  have hinside : ∀ c ∈ '/' :: name, c ≠ '[' ∧ c ≠ ']' :=
    List.forall_mem_cons.mpr ⟨by decide, h.inside⟩
  have hend : tagsIn ('[' :: '/' :: (name ++ ']' :: after.toList)) =
      .closing name :: tagsIn after.toList := by
    rw [← List.cons_append, tagsIn_tag rfl hinside, h.closes]
    rfl
  simp only [String.toList_append, hopening, hclosing, List.append_assoc, List.cons_append,
    List.nil_append]
  rw [tagsIn_append hbefore, tagsIn_tag h.starts h.inside, tagsIn_append htext, hend, h.opens]
  rfl

/-- A style that is opened is closed by its name. -/
theorem foldlM_add (h : IsStyle name) (s : Sheet) :
    [.opening ⟨name, none⟩, .closing name].foldlM Sheet.add s =
      .ok { s with styles := name :: s.styles } := by
  have hne : name.isEmpty = false := by
    cases hname : name with
    | nil =>
      have hstarts := h.starts
      rw [hname] at hstarts
      cases hstarts
    | cons c cs => rfl
  have hstyle : Tag.style ⟨name, none⟩ = name := List.append_nil name
  simp [List.foldlM_cons, Sheet.add, h.normal, hne, h.plain, hstyle, bind, Except.bind, pure,
    Except.pure]

end IsStyle

/-- Styles that are opened and closed one after another are the styles of the text. -/
theorem foldlM_add_flatMap {names : List (List Char)} (hnames : ∀ name ∈ names, IsStyle name)
    (s : Sheet) :
    (names.flatMap fun name ↦ [Piece.opening ⟨name, none⟩, .closing name]).foldlM Sheet.add s =
      .ok { s with styles := names.reverse ++ s.styles } := by
  induction names generalizing s with
  | nil => rfl
  | cons name names ih =>
    obtain ⟨hname, hnames⟩ := List.forall_mem_cons.mp hnames
    rw [List.flatMap_cons, List.foldlM_append, hname.foldlM_add]
    refine (ih hnames _).trans ?_
    rw [List.reverse_cons, List.append_assoc]
    rfl

/-- Styles that there are pass the check. -/
theorem checkStyles_eq_ok {names : List (List Char)} (hnames : ∀ name ∈ names, IsStyle name) :
    checkStyles ([], names) = .ok () := by
  unfold checkStyles
  rw [List.map_nil, List.append_nil]
  induction names with
  | nil => rfl
  | cons name names ih =>
    obtain ⟨hname, hnames⟩ := List.forall_mem_cons.mp hnames
    obtain ⟨d, hd⟩ := hname.described
    exact Except.bind_of_ok (Except.bind_of_ok hd rfl) (ih hnames)

/-- A text can be shown if its tags open and close one style after another. -/
theorem exists_plain_of_tagsIn {text : String} (names : List (List Char))
    (hnames : ∀ name ∈ names, IsStyle name)
    (h : tagsIn text.toList =
      names.flatMap fun name ↦ [.opening ⟨name, none⟩, .closing name]) :
    ∃ cs, plain text = .ok cs := by
  refine exists_plain_iff.mpr ⟨([], names.reverse), ?_, checkStyles_eq_ok ?_⟩
  · rw [h, foldlM_add_flatMap hnames, List.append_nil]
    rfl
  · intro name hname
    exact hnames name (List.mem_reverse.mp hname)

end Markup

end Apake
