import Apake.Console.Disk
import Apake.Suite
import Apake.Text.Numeral

/-!
# Command lines

A command line names a command and its options; a value stands behind its option or after an equals
sign, and of several the last one counts.
-/

namespace Apake.Console

/-- How a new store is to be made. -/
structure SetupOptions where
  suite : SuiteName := Suite.default.selection
  function : String := "identity"
  memory : Option Int := none
  time : Option Int := none
  force : Bool := false
  deriving DecidableEq

/-- Whose account a command is about; what is missing is asked for. -/
structure AccountOptions where
  user : Option String := none
  password : Option String := none
  force : Bool := false
  deriving DecidableEq

/-- A command. -/
inductive Command
  | menu
  | info
  | setup (store : Path) (options : SetupOptions)
  | register (store : Path) (options : AccountOptions)
  | login (store : Path) (options : AccountOptions)
  deriving DecidableEq

/-- A command line: whether the version is asked for, and the command, if any. -/
structure Invocation where
  version : Bool
  command : Option Command
  deriving DecidableEq

/-- Where a store is kept if nothing else is said. -/
def defaultStore : String := "opaque_store.json"

/-- Whether an argument is the short option for more to be told, given once or more. -/
def isVerbose (arg : String) : Bool :=
  match arg.toList with
  | '-' :: 'v' :: rest => rest.all (· = 'v')
  | _ => false

/-- The options of a command that takes `valued` options with a value and `flags` without; behind two
dashes there are none. -/
def options? (valued flags : List String) : List String → Option (List (String × String))
  | [] => some []
  | arg :: rest =>
    if arg = "--" then if rest.isEmpty then some [] else none
    else if flags.contains arg || flags.contains "-v" && isVerbose arg then
      (options? valued flags rest).map ((arg, "") :: ·)
    else if valued.contains arg then
      match rest with
      | value :: rest => (options? valued flags rest).map ((arg, value) :: ·)
      | [] => none
    else
      let name := arg.toList.takeWhile (· ≠ '=')
      if valued.contains (String.ofList name) && name.length < arg.length then
        let value := String.ofList (arg.toList.drop (name.length + 1))
        (options? valued flags rest).map ((String.ofList name, value) :: ·)
      else none

/-- The value that was given last for an option. -/
def last? (options : List (String × String)) (name : String) : Option String :=
  options.reverse.lookup name

/-- An option whose value must be a whole number. -/
def numberOption? (options : List (String × String)) (name : String) : Option (Option Int) :=
  match last? options name with
  | none => some none
  | some text => (Text.wholeNumber? text).map some

/-- Where the store is kept: as the option says, else as the environment says. -/
def storePath (options : List (String × String)) (environment? : Option String) : Path :=
  match last? options "--store" with
  | some path => ⟨path⟩
  | none =>
    match environment? with
    | none | some "" => ⟨defaultStore⟩
    | some path => ⟨path⟩

/-- The options of a setup. -/
def setupOptions? (options : List (String × String)) : Option SetupOptions := do
  let suite ← match last? options "--suite" with
    | some name => SuiteName.ofName? name
    | none => some Suite.default.selection
  let function := (last? options "--ksf").getD "identity"
  if Stretching.names.contains function then
    return ⟨suite, function, ← numberOption? options "--ksf-memory",
      ← numberOption? options "--ksf-time", (last? options "--force").isSome⟩
  else none

/-- The options that name an account. -/
def accountOptions (options : List (String × String)) : AccountOptions :=
  ⟨last? options "--user", last? options "--password", (last? options "--force").isSome⟩

/-- The command that a command line names; `environment?` is where the environment keeps the
store. -/
def command? (environment? : Option String) : List String → Option Command
  | "info" :: args => (options? [] [] args).map fun _ ↦ .info
  | "setup" :: args => do
    let options ← options? ["--store", "--suite", "--ksf", "--ksf-memory", "--ksf-time"]
      ["--force", "-v", "--verbose"] args
    return .setup (storePath options environment?) (← setupOptions? options)
  | "register" :: args => do
    let options ← options? ["--store", "--user", "--password"] ["--force", "-v", "--verbose"] args
    return .register (storePath options environment?) (accountOptions options)
  | "login" :: args => do
    let options ← options? ["--store", "--user", "--password"] ["-v", "--verbose"] args
    return .login (storePath options environment?) (accountOptions options)
  | _ => none

/-- What a command line says; without a command the menu is shown, unless the version is asked
for.  Two dashes may stand in front of the command. -/
def invocation? (environment? : Option String) (args : List String) : Option Invocation :=
  let rest := args.dropWhile (· = "--version")
  let version := rest.length < args.length
  let rest := if rest.head? = some "--" then rest.drop 1 else rest
  if rest.isEmpty then some ⟨version, if version then none else some .menu⟩
  else (command? environment? rest).map fun c ↦ ⟨version, some c⟩

end Apake.Console
