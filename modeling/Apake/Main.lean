import Apake.Console.Commands
import Apake.Group.Montgomery
import Apake.Group.Residue
import Apake.Random.Stream

/-!
# The terminal program

Runs the program on the real terminal, file system and random source.  The program is a function of
what was typed so far: when it waits for more, one more line is read and it runs again.
-/

namespace Apake.Console

instance : Groups := Groups.standard

/-- The size of the seed that is drawn from the system. -/
def seedSize : Nat := 64

/-- The store that a command works on. -/
def storeOf (i : Invocation) : Path :=
  match i.command with
  | some (.setup path _) | some (.register path _) | some (.login path _) => path
  | _ => ⟨defaultStore⟩

/-- The disk as far as a path leads, with the content of the file at its end. -/
def readDisk (path : Path) : IO Disk := do
  let here ← IO.currentDir
  let mut disk : Disk := { home := here.toString.splitOn "/" |>.filter (· ≠ "") }
  for steps in List.range (path.names.length + 1) do
    if let .ok place := disk.locate path steps then
      let real := here / ("/" ++ String.intercalate "/" place)
      if ← real.isDir then disk := disk.put place .directory
      else if ← real.pathExists then
        let content ← if steps = path.names.length then IO.FS.readBinFile real else pure ⟨#[]⟩
        disk := disk.put place (.file content.toList)
  return disk

/-- Makes the directories and writes the files that have changed. -/
def writeDisk (before after : Disk) : IO Unit := do
  for (place, node) in after.nodes do
    if before.get? place ≠ some node then
      let real := "/" ++ String.intercalate "/" place
      match node with
      | .directory => IO.FS.createDirAll real
      | .file content =>
        IO.FS.createDirAll ("/" ++ String.intercalate "/" place.dropLast)
        IO.FS.writeBinFile real content.toByteArray

/-- One more line of input, without its end. -/
def readTyped : IO (Option String) := do
  let line ← (← IO.getStdin).getLine
  if line.isEmpty then return none
  return some (line.takeWhile (fun c ↦ c ≠ '\n' && c ≠ '\r')).toString

/-- Shows what is new and goes on with one more answer as long as the program waits for one. -/
partial def converse (i : Invocation) (t : Terminal) (seen : Nat) : IO (UInt32 × Terminal) := do
  let (result, after) := (run i).run.run t
  let output ← IO.getStdout
  output.putStr (String.ofList (after.shown.toList.drop seen))
  output.flush
  let seen := after.shown.length
  match result with
  | .ok code => return (code.toUInt32, after)
  | .error (.waiting none) =>
    converse i { t with choices := t.choices ++ [← readTyped] } seen
  | .error (.waiting (some q)) =>
    if let some complaint := after.asked.getLast?.bind Asked.complaint then
      output.putStrLn complaint
    output.putStr q.text
    output.flush
    converse i { t with answers := t.answers ++ [← readTyped] } seen
  | .error (.failed e) =>
    (← IO.getStderr).putStrLn s!"Failed: {e.message}"
    return (1, after)
  | .error _ => return (1, after)

end Apake.Console

open Apake Apake.Console in
/-- Reads the command line, runs the program and keeps what it wrote. -/
def main (args : List String) : IO UInt32 := do
  match invocation? (← IO.getEnv "OPAQUE_ENGINE_STORE") args with
  | none =>
    (← IO.getStderr).putStrLn
      "Usage: opaque-engine [--version] [setup | register | login | info] [OPTIONS]"
    return 2
  | some i =>
    let path := storeOf i
    let disk ← readDisk path
    let seed ← IO.getRandomBytes seedSize.toUSize
    let (code, after) ← converse i { disk, entropy := { source := Source.stream seed.toList } } 0
    writeDisk disk after.disk
    return code
