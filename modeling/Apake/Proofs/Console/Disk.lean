import Apake.Console.Disk
import Apake.Proofs.Random.Supply

/-!
# Writing the file of a path

A write that comes to its end leaves the file with its content at the end of the path, and one that
fails leaves a path without a file as it was, whatever directories it has made.  A file that is
there can always be written again.
-/

namespace Apake

namespace Disk

variable {d d' : Disk} {p : Path} {content : Bytes} {node : Node} {place : Place} {steps : Nat}

/-- Whether a path leads to no file. -/
def HasNoFile (d : Disk) (p : Path) : Prop := ∀ content, d.find p ≠ .ok (.file content)

/-- What is found at the place that a path leads to. -/
theorem find_eq_ok_iff :
    d.find p steps = .ok node ↔ ∃ place, d.locate p steps = .ok place ∧ d.get? place = some node := by
  unfold find
  rw [Except.bind_eq_ok_iff]
  refine exists_congr fun place ↦ and_congr_right fun _ ↦ ?_
  cases d.get? place with
  | none => simp [throw, throwThe, MonadExceptOf.throw]
  | some n => simp [pure, Except.pure]

/-- The first steps of a path are written no longer than all of them. -/
theorem utf8ByteSize_intercalate_take (names : List String) (steps : Nat) :
    (String.intercalate "/" (names.take steps)).utf8ByteSize ≤
      (String.intercalate "/" names).utf8ByteSize := by
  induction names generalizing steps with
  | nil => simp
  | cons name names ih =>
    cases steps with
    | zero => simp
    | succ steps =>
      cases names with
      | nil => simp
      | cons next names =>
        cases steps with
        | zero =>
          simp only [List.take_succ_cons, List.take_zero, String.intercalate_cons_cons,
            String.intercalate_singleton, String.utf8ByteSize_append]
          omega
        | succ steps =>
          have hrest := ih (steps + 1)
          simp only [List.take_succ_cons, String.intercalate_cons_cons,
            String.utf8ByteSize_append] at hrest ⊢
          omega

/-- A walk in two parts. -/
theorem walk_append (here : Place) (names rest : List String) :
    d.walk here (names ++ rest) = d.walk here names >>= fun there ↦ d.walk there rest := by
  induction names generalizing here with
  | nil => rfl
  | cons name names ih =>
    simp only [List.cons_append, walk]
    split
    · split
      · exact ih _
      · split
        · rfl
        · exact ih _
    · rfl
    · rfl

/-- Where the first steps of a path lead to. -/
theorem locate_eq_ok_iff :
    d.locate p steps = .ok place ↔
      (∀ name ∈ p.names.take steps, '\x00' ∉ name.toList) ∧
        (p.root ++ String.intercalate "/" (p.names.take steps)).utf8ByteSize < pathLimit ∧
        d.walk (if p.root = "" then d.home else []) (p.names.take steps) = .ok place := by
  have hany : (p.names.take steps).any (fun name ↦ name.toList.contains '\x00') = true ↔
      ¬ ∀ name ∈ p.names.take steps, '\x00' ∉ name.toList := by
    simp
  unfold locate
  dsimp only
  split
  · next hzero => exact ⟨nofun, fun h ↦ absurd h.1 (hany.mp hzero)⟩
  · next hzero =>
    have hclean := Decidable.not_not.mp (mt hany.mpr hzero)
    split
    · next hlong => exact ⟨nofun, fun h ↦ absurd h.2.1 (Nat.not_lt.mpr hlong)⟩
    · next hlong => exact ⟨fun h ↦ ⟨hclean, Nat.not_le.mp hlong, h⟩, fun h ↦ h.2.2⟩

/-- What follows a step is found only if the step leads to a directory. -/
theorem find_directory_of_find_succ (hsteps : steps < p.names.length)
    (h : d.find p (steps + 1) = .ok node) : d.find p steps = .ok .directory := by
  obtain ⟨place, hlocate, -⟩ := find_eq_ok_iff.mp h
  obtain ⟨hzero, hshort, hwalk⟩ := locate_eq_ok_iff.mp hlocate
  have htake : p.names.take (steps + 1) = p.names.take steps ++ [p.names[steps]] := by
    simp
  have hzero' (name : String) (hname : name ∈ p.names.take steps) : '\x00' ∉ name.toList := by
    refine hzero name ?_
    rw [htake]
    exact List.mem_append_left _ hname
  have hprefix := utf8ByteSize_intercalate_take (p.names.take (steps + 1)) steps
  rw [List.take_take, Nat.min_eq_left (Nat.le_succ steps)] at hprefix
  rw [String.utf8ByteSize_append] at hshort
  rw [htake, walk_append] at hwalk
  obtain ⟨there, hthere, hlast⟩ := Except.bind_eq_ok_iff.mp hwalk
  rw [walk] at hlast
  split at hlast
  · next hdirectory =>
    refine find_eq_ok_iff.mpr ⟨there, locate_eq_ok_iff.mpr ⟨hzero', ?_, hthere⟩, hdirectory⟩
    rw [String.utf8ByteSize_append]
    omega
  · cases hlast
  · cases hlast

/-- A walk leads to the same place when something is put where no directory is. -/
theorem walk_put (hplace : d.get? place ≠ some .directory) (node : Node) {here there : Place}
    {names : List String} (h : d.walk here names = .ok there) :
    (d.put place node).walk here names = .ok there := by
  induction names generalizing here with
  | nil => exact h
  | cons name names ih =>
    rw [walk] at h ⊢
    split at h
    · next hdirectory =>
      -- The walk goes on from directories only, so it does not come past the place that changes.
      have hne : here ≠ place := by
        rintro rfl
        exact hplace hdirectory
      rw [get?_put_of_ne d node hne, hdirectory]
      dsimp only
      split at h
      · next hback =>
        rw [if_pos hback]
        exact ih h
      · next hback =>
        rw [if_neg hback]
        split at h
        · cases h
        · next hshort =>
          rw [if_neg hshort]
          exact ih h
    · cases h
    · cases h

/-- A path leads to the same place when something is put where no directory is. -/
theorem locate_put (hplace : d.get? place ≠ some .directory) (node : Node) {there : Place}
    (h : d.locate p steps = .ok there) : (d.put place node).locate p steps = .ok there := by
  obtain ⟨hzero, hshort, hwalk⟩ := locate_eq_ok_iff.mp h
  exact locate_eq_ok_iff.mpr ⟨hzero, hshort, walk_put hplace node hwalk⟩

/-- A file that was written is found with its content. -/
theorem find_of_writeFile (h : d.writeFile p content = .ok d') :
    d'.find p = .ok (.file content) := by
  obtain ⟨place, hlocate, h⟩ := Except.bind_eq_ok_iff.mp h
  obtain ⟨hfree, h⟩ := Except.refuseIf_eq_ok_iff.mp h
  cases h
  simp only [Bool.or_eq_true, decide_eq_true_eq, not_or] at hfree
  have hplace : d.get? place ≠ some .directory := hfree.2
  have hhome : ¬ place.isPrefixOf d.home := by
    intro hprefix
    exact hplace (if_pos hprefix)
  exact find_eq_ok_iff.mpr ⟨place, locate_put hplace _ hlocate, get?_put d _ hhome⟩

/-- Makes the directory that the first steps of a path lead to, unless it is there. -/
def ensureDirectory (p : Path) (steps : Nat) : ExceptT Error (StateM Disk) Unit := do
  let d ← get
  match d.makeDirectory p steps with
  | .ok d => set d
  | .error .noSuchFile => throw .noSuchFile
  | .error e =>
    match d.find p steps with
    | .ok .directory => return
    | .error .longPath => throw .longPath
    | _ => throw e

/-- Directories are made from the end of a path, and those on the way to it if they are missing. -/
theorem makeDirectories_succ (p : Path) (room steps : Nat) :
    makeDirectories p (room + 1) (steps + 1) =
      tryCatch (ensureDirectory p (steps + 1)) fun
        | .noSuchFile => do
          makeDirectories p room steps
          ensureDirectory p (steps + 1)
        | e => throw e := rfl

/-- A directory is not made only if there is no way to it or something stands in its place. -/
theorem makeDirectory_of_find (h : d.find p steps = .ok node) :
    d.makeDirectory p steps = .error .occupied := by
  obtain ⟨place, hlocate, hnode⟩ := find_eq_ok_iff.mp h
  refine Except.bind_of_ok hlocate ?_
  have hthere : (p.names[steps - 1]? = some ".." || (d.get? place).isSome) = true := by
    rw [hnode, Option.isSome_some, Bool.or_true]
  rw [if_pos hthere]
  rfl

/-- A directory is made, or its place is looked at. -/
theorem run_ensureDirectory (d : Disk) (p : Path) (steps : Nat) :
    (ensureDirectory p steps).run.run d =
      match d.makeDirectory p steps with
      | .ok d' => (.ok (), d')
      | .error .noSuchFile => (.error .noSuchFile, d)
      | .error e =>
        match d.find p steps with
        | .ok .directory => (.ok (), d)
        | .error .longPath => (.error .longPath, d)
        | _ => (.error e, d) := by
  unfold ensureDirectory
  rw [ExceptT.run_run_bind]
  show (match d.makeDirectory p steps with
      | .ok d => set d
      | .error .noSuchFile => throw .noSuchFile
      | .error e =>
        match d.find p steps with
        | .ok .directory => return
        | .error .longPath => throw .longPath
        | _ => throw e : ExceptT Error (StateM Disk) Unit).run.run d = _
  split
  · rfl
  · rfl
  · split <;> rfl

/-- If a directory is not there and cannot be made, nothing has changed. -/
theorem ensureDirectory_error {e : Error}
    (h : (ensureDirectory p steps).run.run d = (.error e, d')) :
    d' = d ∧ d.find p steps ≠ .ok .directory := by
  have hmade : d.makeDirectory p steps = .error .occupied ∨ d.find p steps ≠ .ok .directory := by
    by_cases hfind : d.find p steps = .ok .directory
    · exact .inl (makeDirectory_of_find hfind)
    · exact .inr hfind
  rw [run_ensureDirectory] at h
  split at h
  · cases h
  · next hmissing =>
    cases h
    rw [hmissing] at hmade
    exact ⟨rfl, hmade.resolve_left nofun⟩
  · split at h
    · cases h
    · next hlong =>
      cases h
      exact ⟨rfl, by rw [hlong]; nofun⟩
    · next hother _ =>
      cases h
      exact ⟨rfl, hother⟩

/-- A directory that is there need not be made. -/
theorem ensureDirectory_of_find (h : d.find p steps = .ok .directory) :
    (ensureDirectory p steps).run.run d = (.ok (), d) := by
  rw [run_ensureDirectory, makeDirectory_of_find h, h]

/-- If the way to a path cannot be made, nothing has changed or there is no directory at its end. -/
theorem makeDirectories_error {room : Nat} {e : Error} (hsteps : steps < p.names.length)
    (h : (makeDirectories p room steps).run.run d = (.error e, d')) :
    d' = d ∨ d'.find p steps ≠ .ok .directory := by
  induction room generalizing steps d d' e with
  | zero =>
    cases steps with
    | zero => cases h
    | succ steps =>
      cases h
      exact .inl rfl
  | succ room ih =>
    cases steps with
    | zero => cases h
    | succ steps =>
      rw [makeDirectories_succ, ExceptT.run_run_tryCatch] at h
      split at h
      · cases h
      · next e₁ d₁ hfirst =>
        obtain ⟨rfl, -⟩ := ensureDirectory_error hfirst
        split at h
        · rw [ExceptT.run_run_bind] at h
          split at h
          · next d₂ hway =>
            obtain ⟨rfl, hnone⟩ := ensureDirectory_error h
            exact .inr hnone
          · next e₂ d₂ hway =>
            -- What the failed way has made stops short of this directory, which is still missing.
            cases h
            refine (ih (by omega) hway).imp_right fun hnone hfind ↦ hnone ?_
            exact find_directory_of_find_succ (by omega) hfind
        · cases h
          exact .inl rfl

/-- If there is a directory at the end of a way, none has to be made. -/
theorem makeDirectories_of_find {room : Nat} (h : steps = 0 ∨ d.find p steps = .ok .directory) :
    (makeDirectories p (room + 1) steps).run.run d = (.ok (), d) := by
  cases steps with
  | zero => rfl
  | succ steps =>
    rw [makeDirectories_succ, ExceptT.run_run_tryCatch,
      ensureDirectory_of_find (h.resolve_left (Nat.succ_ne_zero steps))]

/-- A place all ways to which are directories. -/
def IsOpen (d : Disk) (place : Place) : Prop :=
  ∀ before after, place = before ++ after → after ≠ [] → d.get? before = some .directory

/-- A walk through directories leads to an open place. -/
theorem isOpen_walk {here there : Place} {names : List String} (hopen : d.IsOpen here)
    (h : d.walk here names = .ok there) : d.IsOpen there := by
  induction names generalizing here with
  | nil =>
    cases h
    exact hopen
  | cons name names ih =>
    rw [walk] at h
    split at h
    · next hdirectory =>
      split at h
      · refine ih (fun before after hsplit hafter ↦ ?_) h
        have hne : here ≠ [] := by
          rintro rfl
          exact hafter (List.append_eq_nil_iff.mp hsplit.symm).2
        refine hopen before (after ++ [here.getLast hne]) ?_ (by simp)
        rw [← List.append_assoc, ← hsplit, List.dropLast_concat_getLast]
      · split at h
        · cases h
        · refine ih (fun before after hsplit hafter ↦ ?_) h
          rw [← List.dropLast_concat_getLast hafter, ← List.append_assoc] at hsplit
          have hhere := List.append_inj_left' hsplit rfl
          by_cases hlast : after.dropLast = []
          · rw [hlast, List.append_nil] at hhere
            rw [← hhere, hdirectory]
          · exact hopen before _ hhere hlast
    · cases h
    · cases h

/-- The places from which paths start are open directories. -/
theorem isOpen_start (p : Path) :
    d.IsOpen (if p.root = "" then d.home else []) ∧
      d.get? (if p.root = "" then d.home else []) = some .directory := by
  split
  · refine ⟨fun before after hsplit _ ↦ if_pos ?_, if_pos ?_⟩
    · rw [hsplit, List.isPrefixOf_iff_prefix]
      exact List.prefix_append before after
    · exact List.isPrefixOf_iff_prefix.mpr (List.prefix_refl _)
  · refine ⟨fun before after hsplit hafter ↦ ?_, if_pos rfl⟩
    exact absurd (List.append_eq_nil_iff.mp hsplit.symm).2 hafter

/-- A path that leads to a file ends with the name of that file. -/
theorem getLast?_of_find_file (h : d.find p = .ok (.file content)) :
    ∃ name, p.names.getLast? = some name ∧ name ≠ ".." := by
  obtain ⟨place, hlocate, hfile⟩ := find_eq_ok_iff.mp h
  obtain ⟨-, -, hwalk⟩ := locate_eq_ok_iff.mp hlocate
  obtain ⟨hopen, hstart⟩ := d.isOpen_start p
  rw [List.take_length] at hwalk
  by_cases hnames : p.names = []
  · rw [hnames] at hwalk
    cases hwalk
    rw [hstart] at hfile
    cases hfile
  · refine ⟨p.names.getLast hnames, List.getLast?_eq_some_getLast hnames, fun hback ↦ ?_⟩
    rw [← List.dropLast_concat_getLast hnames, walk_append, hback] at hwalk
    obtain ⟨there, hthere, hlast⟩ := Except.bind_eq_ok_iff.mp hwalk
    have hup : place = there.dropLast ∧ d.get? there = some .directory := by
      rw [walk] at hlast
      split at hlast
      · next hdirectory =>
        cases hlast
        exact ⟨rfl, hdirectory⟩
      · cases hlast
      · cases hlast
    obtain ⟨rfl, hdirectory⟩ := hup
    have hplace : d.get? there.dropLast = some .directory := by
      by_cases hroot : there = []
      · rw [hroot] at hdirectory ⊢
        exact hdirectory
      · exact isOpen_walk hopen hthere _ [there.getLast hroot]
          (List.dropLast_concat_getLast hroot).symm (List.cons_ne_nil _ _)
    rw [hplace] at hfile
    cases hfile

/-- A file is found only in a directory. -/
theorem find_directory_of_find (h : d.find p = .ok (.file content)) :
    p.names.length - 1 < p.names.length ∧ d.find p (p.names.length - 1) = .ok .directory := by
  obtain ⟨name, hlast, -⟩ := getLast?_of_find_file h
  have hpos : 0 < p.names.length := List.length_pos_of_mem (List.mem_of_getLast? hlast)
  have hsteps : p.names.length = p.names.length - 1 + 1 := by omega
  exact ⟨by omega, find_directory_of_find_succ (by omega) (hsteps ▸ h)⟩

/-- A way is made first and the file then written. -/
theorem run_write (d : Disk) (p : Path) (content : Bytes) :
    (write p content).run.run d =
      match (makeDirectories p depthLimit (p.names.length - 1)).run.run d with
      | (.ok (), d') =>
        match d'.writeFile p content with
        | .ok d'' => (.ok (), d'')
        | .error e => (.error e, d')
      | (.error e, d') => (.error e, d') := by
  unfold write
  rw [ExceptT.run_run_bind]
  rcases (makeDirectories p depthLimit (p.names.length - 1)).run.run d with ⟨r, d'⟩
  cases r with
  | error e => rfl
  | ok =>
    dsimp only
    rw [ExceptT.run_run_bind]
    show ((liftM (d'.writeFile p content) : ExceptT Error (StateM Disk) Disk) >>=
      set).run.run d' = _
    cases d'.writeFile p content <;> rfl

/-- What was written is found. -/
theorem find_of_write (h : (write p content).run.run d = (.ok (), d')) :
    d'.find p = .ok (.file content) := by
  rw [run_write] at h
  split at h
  · split at h
    · next hwrite =>
      cases h
      exact find_of_writeFile hwrite
    · cases h
  · cases h

/-- Where there is a file it is written without a way being made. -/
theorem writeFile_of_find {old : Bytes} (h : d.find p = .ok (.file old)) (content : Bytes) :
    ∃ d', d.writeFile p content = .ok d' := by
  obtain ⟨name, hlast, hname⟩ := getLast?_of_find_file h
  obtain ⟨place, hlocate, hfile⟩ := find_eq_ok_iff.mp h
  refine ⟨_, Except.bind_of_ok hlocate (Except.refuseIf_eq_ok_iff.mpr ⟨?_, rfl⟩)⟩
  simp [hlast, hname, hfile]

/-- A file that is there can be written again. -/
theorem exists_write_of_find {old : Bytes} (h : d.find p = .ok (.file old)) (content : Bytes) :
    ∃ d', (write p content).run.run d = (.ok (), d') := by
  have hway : p.names.length - 1 = 0 ∨ d.find p (p.names.length - 1) = .ok .directory :=
    .inr (find_directory_of_find h).2
  obtain ⟨d', hwrite⟩ := writeFile_of_find h content
  rw [run_write, show depthLimit = 969 + 1 from rfl, makeDirectories_of_find hway]
  dsimp only
  rw [hwrite]
  exact ⟨d', rfl⟩

/-- A path without a file is left without one if the file cannot be written. -/
theorem hasNoFile_of_write_error {e : Error} (hnone : d.HasNoFile p)
    (h : (write p content).run.run d = (.error e, d')) : d'.HasNoFile p := by
  rw [run_write] at h
  intro old hfind
  split at h
  · next d₁ hway =>
    split at h
    · cases h
    · next hwrite =>
      cases h
      obtain ⟨d'', hwrite'⟩ := writeFile_of_find hfind content
      rw [hwrite'] at hwrite
      cases hwrite
  · next e₁ d₁ hway =>
    cases h
    obtain ⟨hsteps, hdirectory⟩ := find_directory_of_find hfind
    -- A file found now would stand in a directory at the end of the way that could not be made.
    rcases makeDirectories_error hsteps hway with rfl | hmissing
    · exact hnone old hfind
    · exact hmissing hdirectory

/-- A file is read exactly if it is found. -/
theorem read_eq_ok_some_iff : d.read p = .ok (some content) ↔ d.find p = .ok (.file content) := by
  unfold read contains
  cases hfind : d.find p with
  | error e =>
    refine ⟨fun h ↦ ?_, nofun⟩
    obtain ⟨there, hthere, h⟩ := Except.bind_eq_ok_iff.mp h
    split at h
    · cases h
    · cases h
  | ok node => cases node <;> simp [bind, Except.bind, pure, Except.pure]

/-- A path that leads to nothing leads to no file. -/
theorem hasNoFile_of_contains (h : d.contains p = .ok false) : d.HasNoFile p := by
  intro content hfind
  unfold contains at h
  rw [hfind] at h
  cases h

/-- A path of one plain name leads to a place in the working directory. -/
theorem locate_of_name {name : String} (hroot : p.root = "") (hnames : p.names = [name])
    (hback : name ≠ "..") (hzero : '\x00' ∉ name.toList) (hshort : name.utf8ByteSize ≤ nameLimit) :
    d.locate p = .ok (d.home ++ [name]) := by
  have htake : p.names.take p.names.length = [name] := by rw [List.take_length, hnames]
  have hstart := (d.isOpen_start p).2
  rw [if_pos hroot] at hstart
  refine locate_eq_ok_iff.mpr ⟨?_, ?_, ?_⟩
  · rw [htake]
    simpa using hzero
  · rw [htake, hroot, String.intercalate_singleton, String.empty_append]
    exact Nat.lt_of_le_of_lt hshort (by decide)
  · rw [htake, if_pos hroot, walk, hstart]
    dsimp only
    rw [if_neg hback, if_neg (Nat.not_lt.mpr hshort)]
    rfl

/-- A path to a free place leads to nothing. -/
theorem contains_of_free (hlocate : d.locate p = .ok place) (hfree : d.get? place = none) :
    d.contains p = .ok false := by
  have hfind : d.find p = .error .noSuchFile := by
    refine Except.bind_of_ok hlocate ?_
    rw [hfree]
    rfl
  unfold contains
  rw [hfind]

/-- A file can be written at a free place that no directory has to be made for. -/
theorem exists_write_of_free (hnames : p.names.length ≤ 1) (hback : p.names.getLast? ≠ some "..")
    (hlocate : d.locate p = .ok place) (hfree : d.get? place = none) (content : Bytes) :
    ∃ d', (write p content).run.run d = (.ok (), d') := by
  have hwrite : d.writeFile p content = .ok (d.put place (.file content)) :=
    Except.bind_of_ok hlocate (Except.refuseIf_eq_ok_iff.mpr ⟨by simp [hback, hfree], rfl⟩)
  rw [run_write, show p.names.length - 1 = 0 by omega]
  refine ⟨d.put place (.file content), ?_⟩
  show (match d.writeFile p content with | .ok d'' => _ | .error e => _) = _
  rw [hwrite]

end Disk

end Apake
