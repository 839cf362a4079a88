import Apake.Console.Arguments
import Apake.Console.Terminal
import Apake.Store.Accounts

/-!
# Commands

`setup` makes a store, `register` and `login` run both sides of the protocol against it.  A command
ends with a report or stops; writing the store is the last thing that `setup` and `register` do
before they report.
-/

namespace Apake.Console

/-- What a command tells when it ends. -/
inductive Report
  | created (path : String) (suite : Suite) (publicKey : Bytes)
  | registered (user : String) (exportKey : Bytes)
  | loggedIn (user : String) (clientKey serverKey exportKey : Bytes)
  | page (lines : List String)
  deriving DecidableEq

/-- A short form of a key that tells nothing about it: the start of its hash in groups of four. -/
def fingerprint (key : Bytes) : String :=
  let digits := (Bytes.hex ((Sha256.digest key).take 8)).toList
  String.intercalate " " ((List.range 4).map fun i ↦ String.ofList ((digits.drop (4 * i)).take 4))

/-- A report in marked-up lines. -/
def Report.lines : Report → List String
  | created path suite publicKey =>
    [s!"[green]✓ Store created:[/green] {path}",
      s!"  Suite: [cyan]{suite.name}[/cyan]  KSF: [cyan]{suite.stretching.name}[/cyan]",
      s!"  Server key: [dim]{fingerprint publicKey}[/dim]"]
  | registered user exportKey =>
    [s!"[green]✓ Registered {user}[/green]", s!"  Export key: [dim]{fingerprint exportKey}[/dim]"]
  | loggedIn user clientKey serverKey exportKey =>
    let agree := if clientKey = serverKey then "yes" else "no"
    [s!"[green]✓ Logged in as {user}[/green]", s!"  Session key: [dim]{fingerprint clientKey}[/dim]",
      s!"  Keys agree:  {agree}", s!"  Export key:  [dim]{fingerprint exportKey}[/dim]"]
  | page lines => lines

/-- The settings of the stretching function for a new store. -/
def SetupOptions.settings (o : SetupOptions) : List (Units × Stretching.Setting) :=
  let setting (name : String) (value : Option Int) : Units × Stretching.Setting :=
    (Units.ofString name, (value.map .integer).getD .null)
  if o.function = "argon2id" then [setting "memory_cost" o.memory, setting "time_cost" o.time]
  else if o.function = "scrypt" then [setting "n" o.memory, setting "r" o.time]
  else []

/-- The question for a user. -/
def userQuestion : Question where
  text := "User: "
  complaint? answer :=
    if Text.strip answer = "" then some "Username required"
    else if 0xFFFF < answer.utf8ByteSize then some "Username too long"
    else none

/-- The question for a password. -/
def passwordQuestion : Question where
  text := "Password: "
  hidden := true
  complaint? answer := if answer = "" then some "Password required" else none

/-- The question for the same password again. -/
def confirmQuestion : Question where
  text := "Confirm: "
  hidden := true

open Program

/-- The user that was named, or else asks for one. -/
def askUser : Option String → Program String
  | none | some "" => do
    say "\n[cyan]Username[/cyan]"
    return Text.strip (← ask userQuestion)
  | some user => return user

/-- The password that was given, or else asks for one, twice where it has to be confirmed. -/
def askPassword (confirm : Bool) : Option String → Program String
  | none | some "" => do
    say "\n[cyan]Password[/cyan]"
    let password ← ask passwordQuestion
    if confirm then
      let again ← ask confirmQuestion
      if again ≠ password then throw .mismatch
    return password
  | some password => return password

/-- A refusal in words. -/
def refuse {α : Type} (message : String) : Program α := throw (.refused (Units.ofString message))

/-- Writes the file of a store. -/
def save (path : Path) (content : Bytes) : Program Unit := do
  let (result, disk) := (Disk.write path content).run.run (← get).disk
  modify fun t ↦ { t with disk }
  lift result

variable [Groups]

/-- Opens the store at a path. -/
def openStore (path : Path) : Program RecordStore := do
  lift (RecordStore.ofFile path.shown (← lift ((← get).disk.read path)))

/-- Makes a store; one that is there already is replaced only if that is asked for. -/
def setup (path : Path) (o : SetupOptions) : Program Report := do
  let suite : Suite := ⟨o.suite, ← lift (Stretching.ofName (Units.ofString o.function) o.settings)⟩
  if (← lift ((← get).disk.contains path)) && !o.force then
    refuse s!"Store {path.given} already exists (use --force to replace it)"
  let (store, file) ← lift (← draw (RecordStore.create path.shown suite))
  save path file
  return .created path.shown suite store.setup.publicKey

/-- Registers an account; one that is there already is replaced only if that is asked for. -/
def register (path : Path) (o : AccountOptions) : Program Report := do
  let store ← openStore path
  let user ← askUser o.user
  let account := Units.ofString user
  if (store.get? account).isSome && !o.force then
    refuse s!"User {user} is already registered"
  let password ← askPassword true o.password
  let (record, exportKey) ← lift (← draw (store.register account (Bytes.ofString password)))
  save path (← lift (store.put account record).1)
  return .registered user exportKey

/-- Logs in to an account. -/
def login (path : Path) (o : AccountOptions) : Program Report := do
  let store ← openStore path
  let user ← askUser o.user
  let password ← askPassword false o.password
  match ← draw (store.login (Units.ofString user) (Bytes.ofString password)) with
  | .ok s => return .loggedIn user s.client.sessionKey s.serverKey s.client.exportKey
  | .error e => if e.isLoginFailure then refuse "Login failed" else lift (.error e)

/-- Shows the menu and does what is chosen. -/
def menu : Program Report := do
  printLines menuPage
  match ← choose with
  | "1" => register ⟨defaultStore⟩ {}
  | "2" => login ⟨defaultStore⟩ {}
  | "3" => return .page infoPage
  | _ => return .page ["Goodbye!"]

/-- Does a command. -/
def perform : Command → Program Report
  | .menu => menu
  | .info => return .page infoPage
  | .setup path o => setup path o
  | .register path o => register path o
  | .login path o => login path o

/-- Does a command, tells how it ended and gives the exit code. -/
def conclude (c : Command) : Program Nat :=
  tryCatch
    (do
      (← perform c).lines.forM say
      return 0)
    fun
      | .refused message => do
        sayUnits (Units.ofString "[red]✗ " ++ message ++ Units.ofString "[/red]")
        return 1
      | .mismatch => do
        print "Error: Passwords do not match\n"
        return 1
      | .interrupted => do
        say "\n[yellow]Cancelled[/yellow]"
        return 0
      | .ended => do
        print "\nAborted!\n"
        return 1
      | stop => throw stop

/-- Does what a command line says. -/
def run (i : Invocation) : Program Nat := do
  if i.version then printLines [programName]
  match i.command with
  | some c => conclude c
  | none => return 0

end Apake.Console
