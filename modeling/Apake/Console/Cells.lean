import Apake.Console.Width

/-!
# Cells of a text

A joiner takes the character behind it into the cells of the one before, and a selector widens the
character before it if that has a wide picture.  A character without cells belongs to the one before
it.  The main statement says that cutting a text loses nothing.
-/

namespace Apake.Cells

/-- Joins the characters at both sides of it. -/
def joiner : Char := Char.ofNat 0x200d

/-- Asks for the picture of the character before it. -/
def selector : Char := Char.ofNat 0xfe0f

/-- How far a text has been measured: its cells, whether a selector widens the last character that
takes cells, and whether the next character is joined to what is before it. -/
structure Measure where
  cells : Nat := 0
  canWiden : Bool := false
  joining : Bool := false

/-- Takes in one more character. -/
def Measure.add (m : Measure) (c : Char) : Measure :=
  if m.joining then { m with joining := false }
  else if c = joiner then { m with joining := true }
  else if c = selector then { m with cells := m.cells + m.canWiden.toNat, canWiden := false }
  else
    let n := Console.charCells c
    if n = 0 then m else { m with cells := m.cells + n, canWiden := Console.widened.has c.toNat }

/-- The cells that a text takes. -/
def count (cs : List Char) : Nat := (cs.foldl Measure.add {}).cells

/-- Characters that are not divided, and the cells they take. -/
structure Cluster where
  chars : List Char
  cells : Nat := 0

/-- Puts a character to the characters of a cluster, which are given last one first. -/
def Cluster.add (k : Cluster) (c : Char) (cells : Nat := 0) : Cluster :=
  ⟨c :: k.chars, k.cells + cells⟩

/-- The clusters of a text behind others; clusters and their characters are given last one first. -/
def clustersFrom (canWiden joining : Bool) (done : List Cluster) : List Char → List Cluster
  | [] => done
  | c :: cs =>
    let n := Console.charCells c
    match done with
    | [] =>
      if c = joiner ∨ c = selector ∨ n = 0 then clustersFrom false false [⟨[c], 0⟩] cs
      else clustersFrom (Console.widened.has c.toNat) false [⟨[c], n⟩] cs
    | k :: ks =>
      if joining then clustersFrom canWiden false (k.add c :: ks) cs
      else if c = joiner then clustersFrom canWiden true (k.add c :: ks) cs
      else if c = selector then clustersFrom false false (k.add c canWiden.toNat :: ks) cs
      else if n = 0 then clustersFrom canWiden false (k.add c :: ks) cs
      else clustersFrom (Console.widened.has c.toNat) false (⟨[c], n⟩ :: k :: ks) cs

/-- The clusters of a text. -/
def clusters (cs : List Char) : List Cluster :=
  (clustersFrom false false [] cs).reverse.map fun k ↦ { k with chars := k.chars.reverse }

/-- The clusters that fit into a line behind `used` cells, up to the first that does not. -/
def fitting (width used : Nat) : List Cluster → List Cluster
  | [] => []
  | k :: ks => if width < used + k.cells then [] else k :: fitting width (used + k.cells) ks

/-- A line without what exceeds its width. -/
def crop (width : Nat) (cs : List Char) : List Char :=
  if width < count cs then (fitting width 0 (clusters cs)).flatMap Cluster.chars else cs

/-- Clusters in lines of a given width behind a line under way that takes `used` cells. -/
def chopFrom (width used : Nat) (line : List Char) : List Cluster → List (List Char)
  | [] => [line]
  | k :: ks =>
    if width < used + k.cells then line :: chopFrom width k.cells k.chars ks
    else chopFrom width (used + k.cells) (line ++ k.chars) ks

/-- A text cut into lines of a given width. -/
def chop (width : Nat) (cs : List Char) : List (List Char) := chopFrom width 0 [] (clusters cs)

theorem flatten_chopFrom (width used : Nat) (line : List Char) (ks : List Cluster) :
    (chopFrom width used line ks).flatten = line ++ ks.flatMap Cluster.chars := by
  induction ks generalizing used line with
  | nil => simp [chopFrom]
  | cons k ks ih =>
    unfold chopFrom
    split <;> simp [ih]

theorem flatMap_chars_clustersFrom (canWiden joining : Bool) (done : List Cluster)
    (cs : List Char) :
    (clustersFrom canWiden joining done cs).flatMap Cluster.chars =
      cs.reverse ++ done.flatMap Cluster.chars := by
  induction cs generalizing canWiden joining done with
  | nil => simp [clustersFrom]
  | cons c cs ih =>
    cases done with
    | nil =>
      simp only [clustersFrom]
      split <;> simp [ih]
    | cons k ks =>
      simp only [clustersFrom]
      repeat' split
      all_goals simp [ih, Cluster.add]

/-- The lines of a text that is cut hold all of it. -/
theorem flatten_chop (width : Nat) (cs : List Char) : (chop width cs).flatten = cs := by
  have h := congrArg List.reverse (flatMap_chars_clustersFrom false false [] cs)
  simp only [List.flatMap_nil, List.append_nil, List.reverse_reverse, List.reverse_flatMap] at h
  rw [chop, flatten_chopFrom, List.nil_append, clusters, List.flatMap_map]
  exact h

end Apake.Cells
