import Apake.Bytes
import Apake.Error

/-!
# Files and directories

A path names a place by the steps to it, from a working directory or from the root.  Every place on
the way must be a directory; `..` goes back one step from wherever it is reached.  A disk tells what
is at each place.  The main statements say that a file reads as it was last written and that writing
it changes no other place.
-/

namespace Apake

/-- A path as it was given. -/
structure Path where
  given : String
  deriving DecidableEq

namespace Path

/-- The slashes that a path from the root begins with; more than two count as one. -/
def root (p : Path) : String :=
  match (p.given.toList.takeWhile (· = '/')).length with
  | 0 => ""
  | 2 => "//"
  | _ => "/"

/-- The steps of a path, without those that stay where they are. -/
def names (p : Path) : List String :=
  (p.given.splitOn "/").filter fun name ↦ name ≠ "" && name ≠ "."

/-- The path in its shortest form. -/
def shown (p : Path) : String :=
  if p.root = "" && p.names.isEmpty then "." else p.root ++ String.intercalate "/" p.names

end Path

/-- A place as the names on the way to it from the root. -/
abbrev Place := List String

/-- What is at a place. -/
inductive Node
  | file (content : Bytes)
  | directory
  deriving DecidableEq

/-- Files and directories, and the working directory. -/
structure Disk where
  home : Place
  nodes : List (Place × Node) := []
  deriving DecidableEq

namespace Disk

/-- The size in bytes that a path must not reach. -/
def pathLimit : Nat := 4096

/-- The greatest size of a name in bytes. -/
def nameLimit : Nat := 255

/-- The most directories that are made for one another. -/
def depthLimit : Nat := 970

/-- What is at a place; the root and the working directory are always there. -/
def get? (d : Disk) (place : Place) : Option Node :=
  if place.isPrefixOf d.home then some .directory else d.nodes.lookup place

/-- Puts something at a place, whatever is there. -/
def put (d : Disk) (place : Place) (node : Node) : Disk :=
  { d with nodes := (place, node) :: d.nodes.filter (·.1 ≠ place) }

/-- The place that steps lead to; every place that is left must be a directory. -/
def walk (d : Disk) (here : Place) : List String → Except Error Place
  | [] => .ok here
  | name :: rest =>
    match d.get? here with
    | some .directory =>
      if name = ".." then walk d here.dropLast rest
      else if nameLimit < name.utf8ByteSize then .error .longPath
      else walk d (here ++ [name]) rest
    | some (.file _) => .error .notDirectory
    | none => .error .noSuchFile

/-- The place that the first steps of a path lead to. -/
def locate (d : Disk) (p : Path) (steps : Nat := p.names.length) : Except Error Place :=
  let names := p.names.take steps
  if names.any fun name ↦ name.toList.contains '\x00' then .error .zeroByte
  else if pathLimit ≤ (p.root ++ String.intercalate "/" names).utf8ByteSize then .error .longPath
  else d.walk (if p.root = "" then d.home else []) names

/-- What is at the place that the first steps of a path lead to. -/
def find (d : Disk) (p : Path) (steps : Nat := p.names.length) : Except Error Node := do
  match d.get? (← d.locate p steps) with
  | some node => return node
  | none => throw .noSuchFile

/-- Whether a path leads to anything. -/
def contains (d : Disk) (p : Path) : Except Error Bool :=
  match d.find p with
  | .ok _ => .ok true
  | .error .noSuchFile | .error .notDirectory | .error .zeroByte => .ok false
  | .error e => .error e

/-- The content of the file that a path leads to, if it leads to anything; a directory cannot be
read. -/
def read (d : Disk) (p : Path) : Except Error (Option Bytes) := do
  if ← d.contains p then
    match ← d.find p with
    | .file content => return some content
    | .directory => throw .isDirectory
  else return none

/-- Makes the directory that the first steps of a path lead to. -/
def makeDirectory (d : Disk) (p : Path) (steps : Nat) : Except Error Disk := do
  let place ← d.locate p steps
  if p.names[steps - 1]? = some ".." || (d.get? place).isSome then throw .occupied
  return d.put place .directory

/-- Makes the directory that the first steps of a path lead to and those on the way to it, unless
they are there. -/
def makeDirectories (p : Path) : (room steps : Nat) → ExceptT Error (StateM Disk) Unit
  | _, 0 => return
  | 0, _ + 1 => throw .nestedTooDeep
  | room + 1, steps + 1 => do
    let make : ExceptT Error (StateM Disk) Unit := do
      let d ← get
      match d.makeDirectory p (steps + 1) with
      | .ok d => set d
      | .error .noSuchFile => throw .noSuchFile
      | .error e =>
        match d.find p (steps + 1) with
        | .ok .directory => return
        | .error .longPath => throw .longPath
        | _ => throw e
    tryCatch make fun
      | .noSuchFile => do
        makeDirectories p room steps
        make
      | e => throw e

/-- Writes the file that a path leads to, in a directory that is there.  A write is taken to be whole:
once the place is found it does not fail.  On a real disk the old content is gone before the new one
is there, so a disk that is full or taken away then leaves a part of it or nothing. -/
def writeFile (d : Disk) (p : Path) (content : Bytes) : Except Error Disk := do
  let place ← d.locate p
  if p.names.getLast? = some ".." || d.get? place = some .directory then throw .isDirectory
  return d.put place (.file content)

/-- Writes the file that a path leads to and makes the directories on the way to it; these stay even
if the file cannot be written. -/
def write (p : Path) (content : Bytes) : ExceptT Error (StateM Disk) Unit := do
  makeDirectories p depthLimit (p.names.length - 1)
  set (← (← get).writeFile p content)

/-- What was put at a place is found there. -/
theorem get?_put (d : Disk) {place : Place} (node : Node) (h : ¬ place.isPrefixOf d.home) :
    (d.put place node).get? place = some node := by
  simp [get?, put, h]

/-- Dropping what is at one place does not change what is found at another. -/
private theorem lookup_filter_ne {place other : Place} (h : other ≠ place) :
    ∀ nodes : List (Place × Node), (nodes.filter (·.1 ≠ place)).lookup other = nodes.lookup other
  | [] => rfl
  | (k, node) :: nodes => by
    by_cases hk : k = place
    · have hb : (other == k) = false := beq_eq_false_iff_ne.mpr fun e ↦ h (e.trans hk)
      simpa [List.filter_cons, hk, List.lookup_cons, hk ▸ hb] using lookup_filter_ne h nodes
    · have ih := lookup_filter_ne h nodes
      simp only [List.filter_cons, ne_eq, hk, not_false_eq_true, decide_true, if_true,
        List.lookup_cons]
      rw [ih]

/-- Putting something at one place leaves every other place as it was. -/
theorem get?_put_of_ne (d : Disk) {place other : Place} (node : Node) (h : other ≠ place) :
    (d.put place node).get? other = d.get? other := by
  have hb : (other == place) = false := beq_eq_false_iff_ne.mpr h
  simp only [get?, put, List.lookup_cons, hb]
  rw [lookup_filter_ne h]

/-- The files in the working directory. -/
def files (d : Disk) : List (String × Bytes) :=
  d.nodes.filterMap fun
    | (place, .file content) =>
      if place.dropLast = d.home then place.getLast?.map ((·, content)) else none
    | (_, .directory) => none

end Disk

end Apake
