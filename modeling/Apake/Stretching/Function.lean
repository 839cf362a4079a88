import Apake.Json.Key
import Apake.Stretching.Argon2
import Apake.Stretching.Scrypt

/-!
# Stretching functions

The function that makes each guess at a password costly: none, scrypt or Argon2id.  A function is
named together with optional settings; an unknown setting and one of the wrong kind are refused.
-/

namespace Apake

/-- A stretching function with its parameters. -/
inductive Stretching
  | identity
  | scrypt (parameters : Scrypt.Parameters)
  | argon2id (parameters : Argon2.Parameters)
  deriving DecidableEq

namespace Stretching

/-- The name of a function. -/
def name : Stretching → String
  | identity => "identity"
  | scrypt _ => "scrypt"
  | argon2id _ => "argon2id"

/-- All names in order. -/
def names : List String := ["argon2id", "identity", "scrypt"]

/-- The named parameters of a function. -/
def parameters : Stretching → List (String × Setting)
  | identity => []
  | scrypt q => [("n", .integer q.n), ("r", q.r), ("p", q.p)]
  | argon2id q => [("memory_cost", q.memory), ("time_cost", q.passes), ("lanes", q.lanes)]

/-- Whether two functions are the same and their parameters of equal value. -/
def same (f g : Stretching) : Bool :=
  f.name = g.name && Json.sameItems (f.parameters.map Prod.snd) (g.parameters.map Prod.snd)

@[simp] theorem same_self (f : Stretching) : f.same f = true := by
  simp [same, Json.sameItems_self]

/-- The settings of a function under the names that it knows; the first setting under another name
is refused.  `maker` is what the refusal calls the function. -/
def known (function maker : String) (names : List String) :
    List (Units × Setting) → Except Error Unit
  | [] => .ok ()
  | (key, _) :: rest =>
    let refuse (problem : String) : Except Error Unit :=
      .error (.stretchingParameters function
        (Units.ofString s!"{maker}.__init__() got {problem} argument '" ++ key ++
          Units.ofString "'"))
    if key = Units.ofString "self" then refuse "multiple values for"
    else if names.any fun name ↦ key = Units.ofString name then known function maker names rest
    else refuse "an unexpected keyword"

/-- A result whose failure for a wrong kind is put down to the settings of a function. -/
def within {α : Type} (function : String) : Except Error α → Except Error α
  | .error (.wrongKind reason) =>
    .error (.stretchingParameters function (Units.ofString reason))
  | r => r

/-- The function of a given name, with the given settings in place of the defaults. -/
def ofName (name : Units) (settings : List (Units × Setting)) : Except Error Stretching :=
  let settings := settings.filter (·.2 ≠ .null)
  let setting (key : String) (default : Setting) : Setting :=
    (settings.lookup (Units.ofString key)).getD default
  match name.toText with
  | "identity" => do
    known "identity" "IdentityKsf" [] settings
    return identity
  | "scrypt" => do
    known "scrypt" "ScryptKsf" ["n", "r", "p"] settings
    let q : Scrypt.Parameters := {}
    within "scrypt" <| scrypt <$>
      Scrypt.Parameters.make (setting "n" (.integer q.n)) (setting "r" q.r) (setting "p" q.p)
  | "argon2id" => do
    known "argon2id" "Argon2idKsf" ["memory_cost", "time_cost", "lanes"] settings
    let q : Argon2.Parameters := {}
    within "argon2id" <| argon2id <$>
      Argon2.Parameters.make (setting "memory_cost" q.memory) (setting "time_cost" q.passes)
        (setting "lanes" q.lanes)
  | _ => .error (.unknownStretching name)

/-- The function whose name a value gives, with settings as they stand beside it. -/
def ofJson (name : Json) (settings : List (Units × Setting)) : Except Error Stretching := do
  name.checkKey
  match name with
  | .text us => ofName us settings
  | v => ofName (Units.ofString v.shownKey) settings

/-- As many bytes as are given, stretched. -/
def stretch : Stretching → Bytes → Except Error Bytes
  | identity, data => .ok data
  | scrypt q, data => Scrypt.stretch q data
  | argon2id q, data => Argon2.stretch q data

end Stretching

end Apake
