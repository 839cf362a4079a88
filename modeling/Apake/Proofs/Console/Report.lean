import Apake.Proofs.Console.Dialogue

/-!
# Which reports can be shown

The lines of a report are plain text in styles that there are, but for the names that a user gives.
A report that tells such a name can be shown wherever the name is plain, and the name decides alone.
-/

namespace Apake.Console

-- What holds of all characters of a text is decided along the text wherever this module is read.
attribute [local instance (2000)] List.decidableBAll

open Markup

/-- A colour or attribute of reports. -/
theorem isStyle_green : IsStyle ['g', 'r', 'e', 'e', 'n'] := by
  have hname : Style.IsName ['g', 'r', 'e', 'e', 'n'] :=
    ⟨by decide, by decide, by decide, by decide, by decide, by decide, by decide⟩
  exact ⟨by decide, by decide, by decide, by decide, by decide, hname.normal (by decide), _,
    hname.ofText?⟩

theorem isStyle_cyan : IsStyle ['c', 'y', 'a', 'n'] := by
  have hname : Style.IsName ['c', 'y', 'a', 'n'] :=
    ⟨by decide, by decide, by decide, by decide, by decide, by decide, by decide⟩
  exact ⟨by decide, by decide, by decide, by decide, by decide, hname.normal (by decide), _,
    hname.ofText?⟩

theorem isStyle_dim : IsStyle ['d', 'i', 'm'] := by
  have hname : Style.IsName ['d', 'i', 'm'] :=
    ⟨by decide, by decide, by decide, by decide, by decide, by decide, by decide⟩
  have hattribute : Style.attribute? (String.ofList ['d', 'i', 'm']) = some "dim" := by decide
  exact ⟨by decide, by decide, by decide, by decide, by decide,
    hname.normal_of_attribute hattribute (by decide), _, hname.ofText?⟩

/-- Every character of joined texts is one of the separator or of a text. -/
theorem mem_of_mem_intercalate {sep : String} {parts : List String} {c : Char}
    (h : c ∈ (String.intercalate sep parts).toList) :
    c ∈ sep.toList ∨ ∃ part ∈ parts, c ∈ part.toList := by
  induction parts with
  | nil => simp at h
  | cons part parts ih =>
    cases parts with
    | nil =>
      rw [String.intercalate_singleton] at h
      exact .inr ⟨part, List.mem_singleton.mpr rfl, h⟩
    | cons next parts =>
      rw [String.intercalate_cons_cons, String.toList_append, String.toList_append,
        List.mem_append, List.mem_append] at h
      rcases h with (hpart | hsep) | hrest
      · exact .inr ⟨part, List.mem_cons_self .., hpart⟩
      · exact .inl hsep
      · refine (ih hrest).imp_right fun ⟨other, hother, hc⟩ ↦ ?_
        exact ⟨other, List.mem_cons_of_mem part hother, hc⟩

/-- A fingerprint is made of digits and blanks, so it is plain text. -/
theorem isPlain_fingerprint (key : Bytes) : IsPlain (fingerprint key).toList := by
  have hdigit : ∀ d < 16, Nat.digitChar d ≠ '\\' ∧ Nat.digitChar d ≠ '[' := by decide
  have hhex : IsPlain (Bytes.hex ((Sha256.digest key).take 8)).toList := by
    intro c hc
    rw [Bytes.hex, String.toList_ofList] at hc
    obtain ⟨b, -, hb⟩ := List.mem_flatMap.mp hc
    have hbyte := b.toNat_lt
    simp only [List.mem_cons, List.not_mem_nil, or_false] at hb
    rcases hb with rfl | rfl
    · exact hdigit _ (by omega)
    · exact hdigit _ (by omega)
  intro c hc
  unfold fingerprint at hc
  generalize Bytes.hex ((Sha256.digest key).take 8) = digits at hhex hc
  rcases mem_of_mem_intercalate hc with hblank | ⟨part, hpart, hc⟩
  · obtain rfl : c = ' ' := List.mem_singleton.mp hblank
    decide
  · obtain ⟨i, -, rfl⟩ := List.mem_map.mp hpart
    rw [String.toList_ofList] at hc
    exact hhex c (List.mem_of_mem_drop (List.mem_of_mem_take hc))

/-- Plain text has no tags. -/
theorem tagsIn_of_isPlain {cs : List Char} (h : IsPlain cs) : tagsIn cs = [] := by
  have happend := tagsIn_append h []
  rw [List.append_nil] at happend
  exact happend.trans (by decide)

/-- Plain text can be shown. -/
theorem exists_plain_of_isPlain {text : String} (h : IsPlain text.toList) :
    ∃ cs, Markup.plain text = .ok cs :=
  exists_plain_of_tagsIn [] (List.forall_mem_nil _) (tagsIn_of_isPlain h)

/-- A line that ends with a fingerprint can be shown. -/
theorem exists_plain_fingerprint (before : String) (h : IsPlain before.toList) (key : Bytes) :
    ∃ cs, Markup.plain (before ++ "[dim]" ++ fingerprint key ++ "[/dim]") = .ok cs := by
  have htags : tagsIn (before ++ "[dim]" ++ fingerprint key ++ "[/dim]" ++ "").toList = _ :=
    isStyle_dim.tagsIn_eq (by decide) (by decide) h (isPlain_fingerprint key) ""
  rw [String.append_empty] at htags
  exact exists_plain_of_tagsIn [['d', 'i', 'm']] (by simpa using isStyle_dim)
    (htags.trans (by decide))

/-- A line that begins with a message can be shown. -/
theorem exists_plain_message (message after : String) (h : IsPlain message.toList)
    (hafter : IsPlain after.toList) :
    ∃ cs, Markup.plain ("[green]" ++ message ++ "[/green]" ++ after) = .ok cs := by
  have htags : tagsIn ("" ++ "[green]" ++ message ++ "[/green]" ++ after).toList = _ :=
    isStyle_green.tagsIn_eq (by decide) (by decide) (by decide) h after
  rw [String.empty_append, tagsIn_of_isPlain hafter] at htags
  exact exists_plain_of_tagsIn [['g', 'r', 'e', 'e', 'n']] (by simpa using isStyle_green) htags

/-- A registration for a user with a plain name can be shown. -/
theorem canBeShown_registered {user : String} (h : IsPlain user.toList) (exportKey : Bytes) :
    CanBeShown (Report.registered user exportKey).lines := by
  have hmessage : IsPlain ("✓ Registered " ++ user).toList := by
    rw [String.toList_append]
    exact List.forall_mem_append.mpr ⟨by decide, h⟩
  have hfirst : ∃ cs, Markup.plain ("[green]" ++ "✓ Registered " ++ user ++ "[/green]") = .ok cs := by
    have hline := exists_plain_message _ "" hmessage (by decide)
    rwa [String.append_empty, ← String.append_assoc] at hline
  simp only [CanBeShown, Report.lines, List.forall_mem_cons]
  exact ⟨hfirst, exists_plain_fingerprint "  Export key: " (by decide) exportKey,
    List.forall_mem_nil _⟩

/-- The name of a suite is plain. -/
theorem isPlain_name (suite : Suite) :
    IsPlain suite.name.toList ∧ IsPlain suite.stretching.name.toList := by
  have hselection (n : SuiteName) : IsPlain n.name.toList := by cases n <;> decide
  have hstretching (f : Stretching) : IsPlain f.name.toList := by
    cases f with
    | identity => exact show IsPlain "identity".toList by decide
    | scrypt _ => exact show IsPlain "scrypt".toList by decide
    | argon2id _ => exact show IsPlain "argon2id".toList by decide
  exact ⟨hselection suite.selection, hstretching suite.stretching⟩

/-- A new store at a plain path can be shown. -/
theorem canBeShown_created {path : String} (h : IsPlain path.toList) (suite : Suite)
    (publicKey : Bytes) : CanBeShown (Report.created path suite publicKey).lines := by
  have hpath : IsPlain (" " ++ path).toList := by
    rw [String.toList_append]
    exact List.forall_mem_append.mpr ⟨by decide, h⟩
  obtain ⟨hname, hfunction⟩ := isPlain_name suite
  have hfirst : ∃ cs, Markup.plain ("[green]✓ Store created:[/green] " ++ path) = .ok cs := by
    have hline := exists_plain_message "✓ Store created:" _ (by decide) hpath
    rwa [← String.append_assoc] at hline
  have hsecond : ∃ cs, Markup.plain ("  Suite: [cyan]" ++ suite.name ++ "[/cyan]  KSF: [cyan]" ++
      suite.stretching.name ++ "[/cyan]") = .ok cs := by
    have hopening : "  Suite: [cyan]" = "  Suite: " ++ "[cyan]" := by decide
    have hmiddle : "[/cyan]  KSF: [cyan]" = "[/cyan]" ++ ("  KSF: " ++ "[cyan]") := by decide
    have hrest : tagsIn ("  KSF: " ++ "[cyan]" ++ suite.stretching.name ++ "[/cyan]" ++ "").toList =
        _ := isStyle_cyan.tagsIn_eq (by decide) (by decide) (by decide) hfunction ""
    have htags : tagsIn ("  Suite: " ++ "[cyan]" ++ suite.name ++ "[/cyan]" ++
        ("  KSF: " ++ "[cyan]" ++ suite.stretching.name ++ "[/cyan]" ++ "")).toList = _ :=
      isStyle_cyan.tagsIn_eq (by decide) (by decide) (by decide) hname _
    rw [hrest, String.append_empty] at htags
    refine exists_plain_of_tagsIn [['c', 'y', 'a', 'n'], ['c', 'y', 'a', 'n']]
      (by simpa using isStyle_cyan) (Eq.trans ?_ (htags.trans (by decide)))
    rw [hopening, hmiddle]
    simp only [String.append_assoc]
  simp only [CanBeShown, Report.lines, List.forall_mem_cons]
  exact ⟨hfirst, hsecond, exists_plain_fingerprint "  Server key: " (by decide) publicKey,
    List.forall_mem_nil _⟩

/-- If the report of a registration can be shown, so can that of a login of the same user. -/
theorem canBeShown_loggedIn {user : String} {exportKey : Bytes}
    (h : CanBeShown (Report.registered user exportKey).lines) (key exportKey' : Bytes) :
    CanBeShown (Report.loggedIn user key key exportKey').lines := by
  have htags (before : String) (hbefore : IsPlain before.toList) :
      tagsIn ("[green]" ++ before ++ user ++ "[/green]").toList =
        [Piece.ofTag "green".toList].filter Piece.isTag ++
          tagsIn (user ++ "[/green]").toList := by
    have hopening : "[green]".toList = '[' :: ("green".toList ++ [']']) := by decide
    simp only [String.toList_append, hopening, List.append_assoc, List.cons_append,
      List.nil_append]
    rw [tagsIn_tag (by decide) (by decide), tagsIn_append hbefore]
  have hfirst : ∃ cs, Markup.plain ("[green]" ++ "✓ Logged in as " ++ user ++ "[/green]") = .ok cs :=
    (exists_plain_congr ((htags "✓ Logged in as " (by decide)).trans
      (htags "✓ Registered " (by decide)).symm)).mpr (h _ (List.mem_cons_self ..))
  simp only [CanBeShown, Report.lines, List.forall_mem_cons, if_pos]
  exact ⟨hfirst, exists_plain_fingerprint "  Session key: " (by decide) key,
    exists_plain_of_isPlain (by decide),
    exists_plain_fingerprint "  Export key:  " (by decide) exportKey', List.forall_mem_nil _⟩

end Apake.Console
