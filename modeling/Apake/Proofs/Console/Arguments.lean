import Apake.Console.Commands
import Apake.Proofs.Store.File

/-!
# Numbers on a command line

A whole number on a command line has no more digits than one in a file may have, so the settings
that a command line gives for a stretching function can be written and read back.
-/

namespace Apake

namespace Text

/-- The value of a digit is below ten. -/
theorem digit?_lt {c : Char} {d : Nat} (h : digit? c = some d) : d < 10 := by
  unfold digit? at h
  obtain ⟨first, hfirst, rfl⟩ := Option.map_eq_some_iff.mp h
  have hrange := List.find?_some hfirst
  simp only [Bool.and_eq_true, decide_eq_true_eq] at hrange
  omega

/-- The values of all digits are below ten. -/
theorem digits?_lt {cs : List Char} {ds : List Nat} (h : digits? cs = some ds) :
    ∀ d ∈ ds, d < 10 := by
  fun_induction digits? cs generalizing ds with
  | case1 => cases h
  | case2 c =>
    obtain ⟨d, hd, rfl⟩ := Option.map_eq_some_iff.mp h
    simpa using digit?_lt hd
  | case3 c rest ih =>
    obtain ⟨d, hd, h⟩ := Option.bind_eq_some_iff.mp h
    obtain ⟨ds, hds, h⟩ := Option.bind_eq_some_iff.mp h
    cases h
    exact List.forall_mem_cons.mpr ⟨digit?_lt hd, ih hds⟩
  | case4 c rest _ _ ih =>
    obtain ⟨d, hd, h⟩ := Option.bind_eq_some_iff.mp h
    obtain ⟨ds, hds, h⟩ := Option.bind_eq_some_iff.mp h
    cases h
    exact List.forall_mem_cons.mpr ⟨digit?_lt hd, ih hds⟩

/-- Digits below ten spell a number below the power of ten of their count. -/
theorem foldl_digits_lt {ds : List Nat} (h : ∀ d ∈ ds, d < 10) (n : Nat) :
    ds.foldl (fun n d ↦ n * 10 + d) n < (n + 1) * 10 ^ ds.length := by
  induction ds generalizing n with
  | nil => simp
  | cons d ds ih =>
    obtain ⟨hd, hds⟩ := List.forall_mem_cons.mp h
    calc ds.foldl (fun n d ↦ n * 10 + d) (n * 10 + d)
        < (n * 10 + d + 1) * 10 ^ ds.length := ih hds _
      _ ≤ (n + 1) * 10 * 10 ^ ds.length := Nat.mul_le_mul_right _ (by omega)
      _ = (n + 1) * 10 ^ (ds.length + 1) := by rw [Nat.mul_assoc, Nat.pow_succ']

/-- A whole number has no more digits than are allowed. -/
theorem length_toDigits_of_wholeNumber? {s : String} {n : Int} (h : wholeNumber? s = some n) :
    (Nat.toDigits 10 n.natAbs).length ≤ digitLimit := by
  obtain ⟨ds, hds, h⟩ := Option.bind_eq_some_iff.mp h
  split at h
  · cases h
  · next hshort =>
    have hvalue := foldl_digits_lt (digits?_lt hds) 0
    have habs : n.natAbs = ds.foldl (fun n d ↦ n * 10 + d) 0 := by
      cases h
      split <;> simp
    have hpos : 0 < digitLimit := by decide
    rw [Nat.length_toDigits_le_iff (by decide) hpos, habs]
    calc ds.foldl (fun n d ↦ n * 10 + d) 0 < (0 + 1) * 10 ^ ds.length := hvalue
      _ ≤ 10 ^ digitLimit := by
        rw [Nat.zero_add, Nat.one_mul]
        exact Nat.pow_le_pow_right (by decide) (Nat.not_lt.mp hshort)

end Text

namespace Console

/-- A number that an option gives has no more digits than are allowed. -/
theorem length_toDigits_of_numberOption? {options : List (String × String)} {name : String}
    {value : Option Int} (h : numberOption? options name = some value) (n : Int)
    (hn : value = some n) : (Nat.toDigits 10 n.natAbs).length ≤ digitLimit := by
  unfold numberOption? at h
  split at h
  · cases h
    cases hn
  · obtain ⟨m, hm, rfl⟩ := Option.map_eq_some_iff.mp h
    cases hn
    exact Text.length_toDigits_of_wholeNumber? hm

/-- The settings of a setup are numbers that can be written, or missing. -/
theorem isWritten_of_setupOptions? {options : List (String × String)} {o : SetupOptions}
    (h : setupOptions? options = some o) : ∀ p ∈ o.settings, p.2 ≠ .null → p.2.IsWritten := by
  have hnumbers : numberOption? options "--ksf-memory" = some o.memory ∧
      numberOption? options "--ksf-time" = some o.time := by
    obtain ⟨suite, h⟩ : ∃ suite, (if Stretching.names.contains
        ((last? options "--ksf").getD "identity") then do
          return ⟨suite, (last? options "--ksf").getD "identity",
            ← numberOption? options "--ksf-memory", ← numberOption? options "--ksf-time",
            (last? options "--force").isSome⟩
        else none) = some o := by
      unfold setupOptions? at h
      split at h
      · obtain ⟨suite, -, h⟩ := Option.bind_eq_some_iff.mp h
        exact ⟨suite, h⟩
      · exact ⟨_, h⟩
    split at h
    · obtain ⟨memory, hmemory, h⟩ := Option.bind_eq_some_iff.mp h
      obtain ⟨time, htime, h⟩ := Option.bind_eq_some_iff.mp h
      cases h
      exact ⟨hmemory, htime⟩
    · cases h
  have hwritten {name : String} {value : Option Int}
      (hvalue : numberOption? options name = some value) :
      ((value.map Json.integer).getD .null) ≠ .null →
        Stretching.Setting.IsWritten ((value.map .integer).getD .null) := by
    intro hgiven
    cases value with
    | none => exact absurd rfl hgiven
    | some n => exact ⟨n, rfl, length_toDigits_of_numberOption? hvalue n rfl⟩
  unfold SetupOptions.settings
  dsimp only
  split
  · simp only [List.forall_mem_cons]
    exact ⟨hwritten hnumbers.1, hwritten hnumbers.2, List.forall_mem_nil _⟩
  · split
    · simp only [List.forall_mem_cons]
      exact ⟨hwritten hnumbers.1, hwritten hnumbers.2, List.forall_mem_nil _⟩
    · exact List.forall_mem_nil _

/-- The stretching function of a setup on a command line has parameters that can be written. -/
theorem isWritten_of_command? {environment? : Option String} {args : List String} {p : Path}
    {o : SetupOptions} (h : command? environment? args = some (.setup p o)) {f : Stretching}
    (hf : Stretching.ofName (Units.ofString o.function) o.settings = .ok f) :
    ∀ p ∈ f.parameters, p.2.IsWritten := by
  obtain ⟨options, ho⟩ : ∃ options, setupOptions? options = some o := by
    unfold command? at h
    split at h
    · obtain ⟨_, -, h⟩ := Option.map_eq_some_iff.mp h
      cases h
    · obtain ⟨options, -, h⟩ := Option.bind_eq_some_iff.mp h
      obtain ⟨o', ho, h⟩ := Option.bind_eq_some_iff.mp h
      cases h
      exact ⟨options, ho⟩
    · obtain ⟨_, -, h⟩ := Option.bind_eq_some_iff.mp h
      cases h
    · obtain ⟨_, -, h⟩ := Option.bind_eq_some_iff.mp h
      cases h
    · cases h
  refine Stretching.forall_parameters_of_ofName ?_ ?_ (isWritten_of_setupOptions? ho) hf
  · simp only [Stretching.parameters, List.forall_mem_cons]
    exact ⟨⟨_, rfl, by decide⟩, ⟨_, rfl, by decide⟩, ⟨_, rfl, by decide⟩,
      List.forall_mem_nil _⟩
  · simp only [Stretching.parameters, List.forall_mem_cons]
    exact ⟨⟨_, rfl, by decide⟩, ⟨_, rfl, by decide⟩, ⟨_, rfl, by decide⟩,
      List.forall_mem_nil _⟩

end Console

end Apake
