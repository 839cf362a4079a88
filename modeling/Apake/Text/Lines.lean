/-!
# Lines and words

A line of a text ends with a line feed, a carriage return or both; read in, it ends with a line feed.
-/

namespace Apake.Text

/-- A text whose lines all end with a line feed. -/
def withLineFeeds : List Char → List Char
  | '\r' :: '\n' :: rest => '\n' :: withLineFeeds rest
  | '\r' :: rest => '\n' :: withLineFeeds rest
  | c :: rest => c :: withLineFeeds rest
  | [] => []

/-- No carriage return is left. -/
theorem not_mem_withLineFeeds (cs : List Char) : '\r' ∉ withLineFeeds cs := by
  induction cs using withLineFeeds.induct with
  | case1 rest ih => simp [withLineFeeds, ih]
  | case2 rest h ih => simp [withLineFeeds, ih]
  | case3 c rest h h' ih => simp [withLineFeeds, ih, Ne.symm h']
  | case4 => simp [withLineFeeds]

/-- A text without carriage returns is left as it is. -/
theorem withLineFeeds_of_not_mem {cs : List Char} (h : '\r' ∉ cs) : withLineFeeds cs = cs := by
  induction cs using withLineFeeds.induct with
  | case1 rest ih => simp at h
  | case2 rest h' ih => simp at h
  | case3 c rest h' h'' ih => simp_all [withLineFeeds]
  | case4 => rfl

/-- The lines of a text; one that is empty at the end does not count. -/
def lines (s : String) : List String :=
  let lines := (String.ofList (withLineFeeds s.toList)).splitOn "\n"
  if lines.getLast? = some "" then lines.dropLast else lines

/-- The words of a text between spaces and line feeds. -/
def words (s : String) : List String :=
  ((s.splitOn "\n").flatMap fun line ↦ line.splitOn " ").filter (· ≠ "")

end Apake.Text
